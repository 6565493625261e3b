import BaseGateway.Json.Reader
import BaseGateway.Text.Quoted

/-!
# Percent encoding undone

A segment of a path stands for the bytes that are written behind its percent signs, and for the UTF-8
form of its other characters; where these bytes are the UTF-8 form of a text, the segment is that
text (`Text.percentDecode?`). Every text is read back from the segment that it is written as
(`Text.percentDecode?_percentEncode`), and the segment has no slash in it
(`Text.slash_not_mem_percentEncode`).
-/

namespace BaseGateway.Text

/-- The bytes of a segment; none where a percent sign lacks its two digits. -/
def percentBytes? : List Char → Option (List UInt8)
  | [] => some []
  | '%' :: high :: low :: rest => do
    let byte := UInt8.ofNat ((← Json.hexValue? high) * 16 + (← Json.hexValue? low))
    return byte :: (← percentBytes? rest)
  | '%' :: _ => none
  | c :: rest => do return String.utf8EncodeChar c ++ (← percentBytes? rest)

/-- The text that a segment stands for, if its bytes are the UTF-8 form of one. -/
def percentDecode? (segment : String) : Option String := do
  String.fromUTF8? (← percentBytes? segment.toList).toByteArray

/-- A hexadecimal digit as it is written in a segment. -/
theorem hexValue?_upper {d : Nat} (h : d < 16) :
    Json.hexValue? (Nat.digitChar d).toUpper = some d := by
  have all : ∀ d : Fin 16, Json.hexValue? (Nat.digitChar d.val).toUpper = some d.val := by decide
  exact all ⟨d, h⟩

theorem percentBytes?_percentByte (b : UInt8) (rest : List Char) :
    percentBytes? (percentByte b ++ rest) = (percentBytes? rest).map (b :: ·) := by
  have bound : b.toNat < 256 := b.toNat_lt_size
  have value : b.toNat / 16 * 16 + b.toNat % 16 = b.toNat := by omega
  simp only [percentByte, List.cons_append, List.nil_append, percentBytes?,
    hexValue?_upper (show b.toNat / 16 < 16 by omega),
    hexValue?_upper (Nat.mod_lt b.toNat (by decide)), Option.bind_eq_bind, Option.bind_some, value,
    UInt8.ofNat_toNat]
  cases percentBytes? rest <;> rfl

theorem percentBytes?_flatMap (bytes : List UInt8) (rest : List Char) :
    percentBytes? (bytes.flatMap percentByte ++ rest) = (percentBytes? rest).map (bytes ++ ·) := by
  induction bytes with
  | nil =>
    rw [List.flatMap_nil, List.nil_append]
    cases percentBytes? rest <;> rfl
  | cons b bytes ih =>
    rw [List.flatMap_cons, List.append_assoc, percentBytes?_percentByte, ih]
    cases percentBytes? rest <;> rfl

/-- No mark among the characters that stand for themselves is a percent sign or a slash. -/
theorem isUnreserved_ne {c : Char} (h : isUnreserved c = true) : c ≠ '%' ∧ c ≠ '/' := by
  constructor <;>
  · rintro rfl
    revert h
    decide

theorem percentBytes?_cons {c : Char} (other : c ≠ '%') (rest : List Char) :
    percentBytes? (c :: rest) = (percentBytes? rest).map (String.utf8EncodeChar c ++ ·) := by
  rw [percentBytes?]
  · cases percentBytes? rest <;> rfl
  · exact fun _ _ _ same _ => other same
  · exact other

/-- However a character is written, it is read back as its UTF-8 form. -/
theorem percentBytes?_percentChar (c : Char) (rest : List Char) :
    percentBytes? (percentChar c ++ rest) =
      (percentBytes? rest).map (String.utf8EncodeChar c ++ ·) := by
  unfold percentChar
  split
  · next plain => exact percentBytes?_cons (isUnreserved_ne plain).1 rest
  · exact percentBytes?_flatMap _ rest

theorem percentBytes?_percentChars (s : List Char) :
    percentBytes? (s.flatMap percentChar) = some (utf8 s) := by
  induction s with
  | nil => rfl
  | cons c s ih =>
    rw [List.flatMap_cons, percentBytes?_percentChar, ih]
    rfl

/-- Every text is read back from its segment. -/
theorem percentDecode?_percentEncode (s : String) : percentDecode? (percentEncode s) = some s := by
  have valid : (utf8 s.toList).toByteArray.IsValidUTF8 := ByteArray.isValidUTF8_utf8Encode
  have same : String.fromUTF8 (utf8 s.toList).toByteArray valid = s := by
    have bytes : s.toByteArray = (utf8 s.toList).toByteArray :=
      (congrArg String.toByteArray s.ofList_toList).symm.trans String.toByteArray_ofList
    exact String.toByteArray_inj.mp bytes.symm
  unfold percentDecode? percentEncode
  rw [String.toList_ofList, percentBytes?_percentChars]
  simp only [Option.bind_eq_bind, Option.bind_some]
  rw [String.fromUTF8?, dif_pos valid, same]

/-- A byte is written without a slash. -/
theorem slash_not_mem_percentByte (b : UInt8) : '/' ∉ percentByte b := by
  have digit : ∀ d : Fin 16, (Nat.digitChar d.val).toUpper ≠ '/' := by decide
  have bound : b.toNat < 256 := b.toNat_lt_size
  have high := digit ⟨b.toNat / 16, by omega⟩
  have low := digit ⟨b.toNat % 16, Nat.mod_lt _ (by decide)⟩
  simp [percentByte, Ne.symm high, Ne.symm low]

/-- A segment has no slash in it. -/
theorem slash_not_mem_percentEncode (s : String) : '/' ∉ (percentEncode s).toList := by
  unfold percentEncode
  rw [String.toList_ofList, List.mem_flatMap]
  rintro ⟨c, -, mem⟩
  unfold percentChar at mem
  split at mem
  · next plain => exact (isUnreserved_ne plain).2 (List.mem_singleton.mp mem).symm
  · obtain ⟨b, -, inByte⟩ := List.mem_flatMap.mp mem
    exact slash_not_mem_percentByte b inByte

end BaseGateway.Text
