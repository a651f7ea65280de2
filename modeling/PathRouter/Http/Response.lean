import PathRouter.Http.Method
import PathRouter.Http.Request
import PathRouter.Text.Bytes
/-!
# Responses

A response collects a status, headers and at most one body.  When it is finished it is given to the transport in three
calls: the head, the body and the end.  The head then has exactly one `Content-Length`, and it is right.
-/
namespace PathRouter

structure Response where
  status : UInt16 := Status.ok.code
  headers : Dict String := ∅
  body : Option (List UInt8) := none
deriving DecidableEq

inductive SinkCall where
  | head (status : UInt16) (headers : Dict String)
  | body (bytes : List UInt8)
  | finish
deriving DecidableEq

namespace Response

def setStatusCode (r : Response) (code : UInt16) : Response :=
  { r with status := code }

def setStatus (r : Response) (s : Status) : Response :=
  r.setStatusCode s.code

/-- Sets a header; a header without a name is not set. -/
def setHeader (r : Response) (key value : String) : Response :=
  if key.isEmpty then r else { r with headers := r.headers.insert key value }

theorem get?_setHeader (r : Response) (key value key' : String) : (r.setHeader key value).headers.get? key' =
    if key' = key ∧ key ≠ "" then some value else r.headers.get? key' := by
  unfold setHeader
  by_cases hempty : key = ""
  · rw [if_pos (String.isEmpty_iff.2 hempty), if_neg (fun h => h.2 hempty)]
  · rw [if_neg (fun h => hempty (String.isEmpty_iff.1 h)), Dict.get?_insert]
    simp [hempty]

theorem body_setHeader (r : Response) (key value : String) : (r.setHeader key value).body = r.body := by
  unfold setHeader
  split <;> rfl

theorem status_setHeader (r : Response) (key value : String) : (r.setHeader key value).status = r.status := by
  unfold setHeader
  split <;> rfl

/-- The value of a header, by its exact name. -/
def header? (r : Response) (key : String) : Option String :=
  r.headers.get? key

/-- Writes a text.  A content type that has been set stays. -/
def writeTextAs (r : Response) (text contentType : String) : Response :=
  { r with
    body := some (Text.toBytes text)
    headers := if r.headers.contains "Content-Type" then r.headers
      else r.headers.insert "Content-Type" contentType }

theorem get?_writeTextAs (r : Response) (text contentType key : String) :
    (r.writeTextAs text contentType).headers.get? key =
      if key = "Content-Type" then some ((r.headers.get? key).getD contentType) else r.headers.get? key := by
  unfold writeTextAs Dict.contains
  by_cases hkey : key = "Content-Type"
  · subst hkey
    cases hset : r.headers.get? "Content-Type" <;> simp [hset, Dict.get?_insert]
  · cases r.headers.get? "Content-Type" <;> simp [hkey, Dict.get?_insert]

def writeText (r : Response) (text : String) : Response :=
  r.writeTextAs text "text/plain"

def writeHtml (r : Response) (text : String) : Response :=
  r.writeTextAs text "text/html"

def writeBytes (r : Response) (bytes : List UInt8) : Response :=
  { r with body := some bytes }

def hasBody (r : Response) : Bool :=
  r.body.isSome

/-- The body, empty where none was written. -/
def content (r : Response) : List UInt8 :=
  r.body.getD []

/-- The headers of the finished response: the length of the body in place of any length that was set. -/
def finalHeaders (r : Response) : Dict String :=
  (r.headers.filter (fun k _ => !sameName k "Content-Length")).insert "Content-Length" (toString r.content.length)

/-- What the transport is given. -/
def calls (r : Response) : List SinkCall :=
  [.head r.status r.finalHeaders, .body r.content, .finish]

end Response

/-- A transport that keeps what it is given. -/
structure BufferedResponse where
  status : UInt16 := 0
  headers : Dict String := ∅
  body : List UInt8 := []
  ended : Bool := false
deriving DecidableEq

namespace BufferedResponse

def receive (b : BufferedResponse) : SinkCall → BufferedResponse
  | .head status headers => { b with status, headers }
  | .body bytes => { b with body := b.body ++ bytes }
  | .finish => { b with ended := true }

def receiveAll (b : BufferedResponse) (calls : List SinkCall) : BufferedResponse :=
  calls.foldl receive b

/-- The body as text, empty where it is none. -/
def bodyText (b : BufferedResponse) : String :=
  (Text.ofBytes? b.body).getD ""

/-- The value of a header, by its exact name. -/
def header? (b : BufferedResponse) (key : String) : Option String :=
  b.headers.get? key

end BufferedResponse
end PathRouter
