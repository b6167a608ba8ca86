/-
# Lengths in bytes

Logs limit a text by the length of its UTF-8 form.  `cut` keeps the longest
sequence of whole characters from the front that fits, and `shorten` marks a
text that was cut.
-/

namespace EntityQuery
namespace Text

/-- The number of bytes of the UTF-8 form. -/
def byteLength : List Char → Nat
  | [] => 0
  | c :: rest => c.utf8Size + byteLength rest

/-- The characters from the front whose bytes fit into `limit`. -/
def cut (limit : Nat) : List Char → List Char
  | [] => []
  | c :: rest => if c.utf8Size ≤ limit then c :: cut (limit - c.utf8Size) rest else []

/-- The text itself if it fits, else what fits of it and three dots. -/
def shorten (limit : Nat) (s : String) : String :=
  if byteLength s.toList ≤ limit then s else String.ofList (cut limit s.toList) ++ "..."

/-- **A cut fits.**  The kept characters take at most `limit` bytes. -/
theorem byteLength_cut_le (limit : Nat) (cs : List Char) : byteLength (cut limit cs) ≤ limit := by
  induction cs generalizing limit with
  | nil => simp [cut, byteLength]
  | cons c rest ih =>
    by_cases h : c.utf8Size ≤ limit
    · have := ih (limit - c.utf8Size)
      simp only [cut, h, if_true, byteLength]
      omega
    · simp [cut, h, byteLength]

/-- The bytes of a text. -/
def utf8 (s : String) : List UInt8 :=
  s.toUTF8.toList

/-- The text that bytes encode, if they are UTF-8. -/
def ofUtf8? (bytes : List UInt8) : Option String :=
  String.fromUTF8? (ByteArray.mk bytes.toArray)

end Text
end EntityQuery
