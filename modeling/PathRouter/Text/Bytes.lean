/-!
# Text and bytes

Bodies are lists of bytes; text becomes bytes, and bytes text, by UTF-8.
-/
namespace PathRouter.Text

def toBytes (s : String) : List UInt8 :=
  s.toUTF8.data.toList

/-- The text that the bytes spell, if they spell one. -/
def ofBytes? (bytes : List UInt8) : Option String :=
  String.fromUTF8? ⟨bytes.toArray⟩

theorem ofBytes?_eq_some_iff {bytes : List UInt8} {s : String} : ofBytes? bytes = some s ↔ bytes = toBytes s := by
  rw [ofBytes?, String.fromUTF8?, toBytes]
  constructor
  · intro h
    split at h
    · obtain rfl := Option.some.inj h
      rfl
    · cases h
  · rintro rfl
    rw [dif_pos (by exact s.isValidUTF8)]
    rfl

end PathRouter.Text
