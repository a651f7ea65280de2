import PathRouter.Proofs.Http.Headers
/-!
# Responses and what was done to them

A response is built by edits in turn.  Most of what is left of them is what the last edit of a kind says: the last status,
the last body, the last value of a header.  The content type is set by headers and filled in by texts, and a text fills
it in only where nothing was set or filled in before (`get?_on`).  So it is what the last header says, and where there
is none what the first text says (`ofEdits_says`).

Headers are set under their exact names.  A text does not see a content type under another spelling and adds its own
beside it (`contentType_single_iff`).
-/
namespace PathRouter

/-- **What a fold shows of edits that set and edits that fill in**: the last that is set; where nothing is, what was there
before; and where nothing was, the first that is filled in. -/
theorem foldl_view {σ ε α : Type} {step : σ → ε → σ} (get : σ → Option α) (sets fills : ε → Option α)
    (hstep : ∀ s e, get (step s e) = (sets e).or ((get s).or (fills e))) (es : List ε) (s : σ) :
    get (es.foldl step s) = (es.filterMap sets).getLast?.or ((get s).or (es.filterMap fills).head?) := by
  rw [List.getLast?_filterMap, List.head?_filterMap]
  induction es generalizing s with
  | nil => simp
  | cons e es ih =>
    have hlast : List.findSome? sets (e :: es).reverse = (List.findSome? sets es.reverse).or (sets e) := by
      rw [List.reverse_cons, List.findSome?_append, List.findSome?_singleton]
    have hfirst : List.findSome? fills (e :: es) = (fills e).or (List.findSome? fills es) := by
      rw [← List.singleton_append, List.findSome?_append, List.findSome?_singleton]
    rw [List.foldl_cons, ih, hstep, hlast, hfirst]
    simp only [Option.or_assoc]

theorem foldl_last {σ ε α : Type} {step : σ → ε → σ} (get : σ → Option α) (sets : ε → Option α)
    (hstep : ∀ s e, get (step s e) = (sets e).or (get s)) (es : List ε) (s : σ) :
    get (es.foldl step s) = (es.filterMap sets).getLast?.or (get s) := by
  have hview := foldl_view get sets (fun _ => none) (fun s e => by rw [hstep, Option.or_none]) es s
  have hnone : es.filterMap (fun _ => (none : Option α)) = [] := List.filterMap_eq_nil_iff.2 fun _ _ => rfl
  rwa [hnone, List.head?_nil, Option.or_none] at hview

namespace Response

/-- What can be done to a response while it is built. -/
inductive Edit where
  | setStatus (s : Status)
  | setStatusCode (code : UInt16)
  | setHeader (key value : String)
  | writeText (text : String)
  | writeTextAs (text contentType : String)
  | writeHtml (text : String)
  | writeBytes (bytes : List UInt8)
deriving DecidableEq

namespace Edit

def on (r : Response) : Edit → Response
  | .setStatus s => r.setStatus s
  | .setStatusCode code => r.setStatusCode code
  | .setHeader key value => r.setHeader key value
  | .writeText text => r.writeText text
  | .writeTextAs text contentType => r.writeTextAs text contentType
  | .writeHtml text => r.writeHtml text
  | .writeBytes bytes => r.writeBytes bytes

/-! ## What an edit says -/

def status? : Edit → Option UInt16
  | .setStatus s => some s.code
  | .setStatusCode code => some code
  | _ => none

def body? : Edit → Option (List UInt8)
  | .writeText text | .writeTextAs text _ | .writeHtml text => some (Text.toBytes text)
  | .writeBytes bytes => some bytes
  | _ => none

/-- What an edit sets a header to; a header without a name is not set. -/
def sets? (key : String) : Edit → Option String
  | .setHeader key' value => if key' = key ∧ key ≠ "" then some value else none
  | _ => none

/-- The content type of the text that an edit writes. -/
def textType? : Edit → Option String
  | .writeText _ => some "text/plain"
  | .writeTextAs _ contentType => some contentType
  | .writeHtml _ => some "text/html"
  | _ => none

/-- What an edit fills in for a header that is not set. -/
def fills? (key : String) (e : Edit) : Option String :=
  if key = "Content-Type" then e.textType? else none

/-! ## What an edit does -/

variable (r : Response) (e : Edit)

theorem body_on : (e.on r).body = e.body?.or r.body := by
  cases e with
  | setHeader key value => exact r.body_setHeader key value
  | _ => rfl

theorem status_on : some (e.on r).status = e.status?.or (some r.status) := by
  cases e with
  | setHeader key value => exact congrArg some (r.status_setHeader key value)
  | _ => rfl

theorem get?_writeTextAs_or (text contentType key : String) : (r.writeTextAs text contentType).headers.get? key =
    (r.headers.get? key).or (if key = "Content-Type" then some contentType else none) := by
  rw [get?_writeTextAs]
  split
  · rename_i h
    rw [h, Option.or_some]
  · rw [Option.or_none]

/-- **What an edit does to a header**: it sets it, or it fills in the content type where none is set. -/
theorem get?_on (key : String) :
    (e.on r).headers.get? key = (e.sets? key).or ((r.headers.get? key).or (e.fills? key)) := by
  -- An edit that writes no text fills nothing in.
  have hquiet : r.headers.get? key = (r.headers.get? key).or (if key = "Content-Type" then none else none) := by simp
  cases e with
  | setStatus | setStatusCode | writeBytes => exact hquiet
  | writeText | writeTextAs | writeHtml => exact get?_writeTextAs_or _ _ _ _
  | setHeader key' value =>
    have hfills : (setHeader key' value).fills? key = if key = "Content-Type" then none else none := rfl
    rw [on, get?_setHeader, sets?, hfills, ← hquiet]
    by_cases hsame : key' = key
    · subst hsame
      split <;> rfl
    · rw [if_neg (fun h => hsame h.1.symm), if_neg (fun h => hsame h.1), Option.none_or]

end Edit

/-! ## Edits in turn -/

def ofEdits (es : List Edit) : Response :=
  es.foldl Edit.on {}

/-- The last value that is set for a header. -/
def lastSet? (key : String) (es : List Edit) : Option String :=
  (es.filterMap (Edit.sets? key)).getLast?

/-- The content type of the first text. -/
def firstTextType? (es : List Edit) : Option String :=
  (es.filterMap Edit.textType?).head?

variable (es : List Edit)

theorem get?_ofEdits (key : String) : (ofEdits es).headers.get? key =
    (lastSet? key es).or (if key = "Content-Type" then firstTextType? es else none) := by
  have hview := foldl_view (fun r : Response => r.headers.get? key) (Edit.sets? key) (Edit.fills? key)
    (fun r e => e.get?_on r key) es {}
  rw [Dict.get?_empty, Option.none_or] at hview
  refine hview.trans (congrArg _ ?_)
  split
  · rename_i hkey
    exact congrArg (fun f => (es.filterMap f).head?) (funext fun e => if_pos hkey)
  · rename_i hkey
    have hnone : es.filterMap (Edit.fills? key) = [] := List.filterMap_eq_nil_iff.2 fun e _ => if_neg hkey
    rw [hnone, List.head?_nil]

theorem lastSet?_empty : lastSet? "" es = none := by
  have hnone : es.filterMap (Edit.sets? "") = [] := List.filterMap_eq_nil_iff.2 fun e _ => by
    cases e <;> simp [Edit.sets?]
  rw [lastSet?, hnone, List.getLast?_nil]

/-- **What is left of edits**: the last body, the last status, and for each header the last value; for the content type,
where none was set, that of the first text.  There is no header without a name. -/
theorem ofEdits_says :
    (ofEdits es).body = (es.filterMap Edit.body?).getLast? ∧
      (ofEdits es).status = (es.filterMap Edit.status?).getLast?.getD 200 ∧
      (ofEdits es).headers.get? "" = none ∧
      ∀ key, (ofEdits es).headers.get? key =
        if key = "Content-Type" then (lastSet? key es).or (firstTextType? es) else lastSet? key es := by
  refine ⟨?_, ?_, ?_, fun key => ?_⟩
  · exact (foldl_last Response.body Edit.body? (fun r e => e.body_on r) es {}).trans Option.or_none
  · have hlast := foldl_last (fun r : Response => some r.status) Edit.status? (fun r e => e.status_on r) es {}
    rw [Option.or_some] at hlast
    exact Option.some.inj hlast
  · rw [get?_ofEdits, lastSet?_empty]
    rfl
  · rw [get?_ofEdits]
    split
    · rfl
    · rw [Option.or_none]

/-- A plain text of a failure is replaced by a page. -/
def replacedText : List Edit :=
  [.setStatus .notFound, .setHeader "X-Trace" "a", .writeText "gone", .setHeader "" "lost", .setStatus .created,
    .writeHtml "<é>", .setHeader "X-Trace" "b"]

theorem ofEdits_replacedText : (ofEdits replacedText).status = 201 ∧
    (ofEdits replacedText).body = some [0x3c, 0xc3, 0xa9, 0x3e] ∧ (ofEdits replacedText).headers.get? "" = none ∧
    (ofEdits replacedText).headers.get? "Content-Type" = some "text/plain" ∧
    (ofEdits replacedText).headers.get? "X-Trace" = some "b" := by
  obtain ⟨hbody, hstatus, hempty, hheaders⟩ := ofEdits_says replacedText
  refine ⟨?_, ?_, hempty, ?_, ?_⟩
  · rw [hstatus]
    decide
  · rw [hbody]
    decide +kernel
  · rw [hheaders]
    decide
  · rw [hheaders]
    decide

/-! ## Content types -/

/-- The spelling of the content type under which an edit sets it. -/
def Edit.spelling? : Edit → Option String
  | .setHeader key _ => if sameName key "Content-Type" then some key else none
  | _ => none

def spellings (es : List Edit) : List String :=
  es.filterMap Edit.spelling?

def OneSpelling (es : List Edit) : Prop :=
  ∀ a ∈ spellings es, ∀ b ∈ spellings es, a = b

def WritesText (es : List Edit) : Prop :=
  ∃ e ∈ es, e.textType?.isSome = true

instance : DecidablePred OneSpelling := fun es =>
  inferInstanceAs (Decidable (∀ a ∈ spellings es, ∀ b ∈ spellings es, a = b))

instance : DecidablePred WritesText := fun es =>
  inferInstanceAs (Decidable (∃ e ∈ es, e.textType?.isSome = true))

theorem isSome_firstTextType?_iff : (firstTextType? es).isSome = true ↔ WritesText es := by
  simp [firstTextType?, WritesText, List.head?_filterMap]

variable {es} {key : String}

theorem sameName_of_mem_spellings (hkey : key ∈ spellings es) : sameName key "Content-Type" = true := by
  obtain ⟨e, -, he⟩ := List.mem_filterMap.1 hkey
  unfold Edit.spelling? at he
  split at he
  · split at he
    · rename_i hname
      rwa [← Option.some.inj he]
    · cases he
  · cases he

theorem isSome_lastSet?_iff (hkey : sameName key "Content-Type" = true) :
    (lastSet? key es).isSome = true ↔ key ∈ spellings es := by
  have hne : key ≠ "" := by
    rintro rfl
    exact absurd hkey (by decide)
  have hedit : ∀ e : Edit, (e.sets? key).isSome = true ↔ e.spelling? = some key := by
    intro e
    cases e <;> simp [Edit.sets?, Edit.spelling?, hne]
    rintro rfl
    exact hkey
  simp [lastSet?, spellings, List.getLast?_filterMap, hedit]

theorem get?_finalHeaders_contentType (r : Response) (hkey : sameName key "Content-Type" = true) :
    r.finalHeaders.get? key = r.headers.get? key := by
  have hlength : sameName key "Content-Length" = false := by
    unfold sameName at hkey ⊢
    rw [beq_iff_eq.1 hkey]
    decide
  have hne : key ≠ "Content-Length" := by
    rintro rfl
    exact absurd hkey (by decide)
  rw [get?_finalHeaders, if_neg hne, hlength, if_neg Bool.false_ne_true]

/-- **Which content types go to the transport**: those that were set, and that of a text under its own spelling. -/
theorem contains_contentType_iff (hkey : sameName key "Content-Type" = true) :
    (ofEdits es).finalHeaders.contains key = true ↔ key ∈ spellings es ∨ key = "Content-Type" ∧ WritesText es := by
  rw [Dict.contains, get?_finalHeaders_contentType _ hkey, get?_ofEdits, Option.isSome_or, Bool.or_eq_true,
    isSome_lastSet?_iff hkey]
  refine or_congr_right ?_
  split
  · rename_i h
    rw [isSome_firstTextType?_iff, and_iff_right h]
  · rename_i h
    exact iff_of_false (by simp) (fun hc => h hc.1)

/-- **When there is one content type.**  Let all content types be set under one spelling.  Then the transport is given one
content type at most exactly if no text is written or that spelling is the one of texts.  In every case it is given the
last content type that was set. -/
theorem contentType_single_iff (h : OneSpelling es) :
    (((ofEdits es).finalHeaders.named "Content-Type").toList.length ≤ 1 ↔
      (WritesText es → ∀ key ∈ spellings es, key = "Content-Type")) ∧
    ∀ key ∈ spellings es, ∃ value, lastSet? key es = some value ∧
      ((ofEdits es).finalHeaders.named "Content-Type").get? key = some value := by
  have hname : ∀ key ∈ spellings es, sameName key "Content-Type" = true := fun key => sameName_of_mem_spellings
  constructor
  · rw [Dict.length_le_one_iff]
    simp only [Dict.contains_named]
    constructor
    · intro hone htext key hkey
      have hcontains := (contains_contentType_iff (hname key hkey)).2 (.inl hkey)
      have hplain := (contains_contentType_iff (sameName_self "Content-Type")).2 (.inr ⟨rfl, htext⟩)
      exact hone _ _ ⟨hname key hkey, hcontains⟩ ⟨sameName_self _, hplain⟩
    · rintro hplain a b ⟨ha, hacontains⟩ ⟨hb, hbcontains⟩
      rw [contains_contentType_iff ha] at hacontains
      rw [contains_contentType_iff hb] at hbcontains
      rcases hacontains with ha | ⟨rfl, htext⟩
      · rcases hbcontains with hb | ⟨rfl, htext⟩
        · exact h a ha b hb
        · exact hplain htext a ha
      · rcases hbcontains with hb | ⟨rfl, -⟩
        · exact (hplain htext b hb).symm
        · rfl
  · intro key hkey
    obtain ⟨value, hvalue⟩ := Option.isSome_iff_exists.1 ((isSome_lastSet?_iff (hname key hkey)).2 hkey)
    refine ⟨value, hvalue, ?_⟩
    rw [Dict.get?_named, if_pos (hname key hkey), get?_finalHeaders_contentType _ (hname key hkey), get?_ofEdits, hvalue,
      Option.some_or]

/-- A document that is sent as bytes. -/
def sentBytes : List Edit :=
  [.setHeader "content-type" "text/csv", .setHeader "content-type" "application/json", .writeBytes [0x7b, 0x7d]]

theorem contentType_single_bytes : OneSpelling sentBytes ∧
    ((ofEdits sentBytes).finalHeaders.named "Content-Type").toList.length ≤ 1 ∧
    ((ofEdits sentBytes).finalHeaders.named "Content-Type").get? "content-type" = some "application/json" := by
  have hone : OneSpelling sentBytes := by decide
  obtain ⟨hsingle, hlast⟩ := contentType_single_iff hone
  obtain ⟨value, hset, hvalue⟩ := hlast "content-type" (by decide)
  have hjson : lastSet? "content-type" sentBytes = some "application/json" := by decide
  rw [← hset, hjson] at hvalue
  exact ⟨hone, hsingle.2 (fun htext => absurd htext (by decide)), hvalue⟩

/-- A document that is written as a text goes out under two labels. -/
theorem contentType_twice :
    OneSpelling [.setHeader "content-type" "application/json", .writeText "\x7b\x7d"] ∧
      ((ofEdits [.setHeader "content-type" "application/json", .writeText "\x7b\x7d"]).finalHeaders.named
        "Content-Type").toList = [("Content-Type", "text/plain"), ("content-type", "application/json")] := by
  decide +kernel

end Response
end PathRouter
