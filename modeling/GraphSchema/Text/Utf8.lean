/-!
Texts and their bytes in UTF-8. Different texts have different bytes. A text can be cut at the bytes
at which its characters begin, and at its end, but not within a character.
-/

namespace GraphSchema.Text

def utf8 (text : String) : List UInt8 := text.toList.flatMap String.utf8EncodeChar

theorem utf8_inj {left right : String} : utf8 left = utf8 right ↔ left = right := by
  constructor
  · intro same
    have encoded : left.toList.utf8Encode = right.toList.utf8Encode := congrArg List.toByteArray same
    rw [← String.toByteArray_inj, ← String.utf8Encode_toList, ← String.utf8Encode_toList, encoded]
  · intro same
    rw [same]

/-- The text of bytes, if they are UTF-8. -/
def ofUtf8? (bytes : List UInt8) : Option String := String.fromUTF8? ⟨bytes.toArray⟩

def byteSize : List Char → Nat
  | [] => 0
  | c :: rest => c.utf8Size + byteSize rest

theorem byteSize_ofList (text : List Char) : (String.ofList text).utf8ByteSize = byteSize text := by
  induction text with
  | nil => rfl
  | cons c rest ih =>
      have first : String.ofList (c :: rest) = String.singleton c ++ String.ofList rest := by
        rw [String.singleton_eq_ofList, ← String.ofList_append]
        rfl
      rw [first, String.utf8ByteSize_append, String.utf8ByteSize_singleton, ih]
      rfl

theorem byteSize_toList (text : String) : byteSize text.toList = text.utf8ByteSize := by
  rw [← byteSize_ofList, String.ofList_toList]

theorem valid_behind (front back : String) :
    String.Pos.Raw.IsValid (front ++ back) ⟨byteSize front.toList⟩ := by
  rw [byteSize_toList]
  exact String.Pos.Raw.isValid_rawEndPos.append_right back

theorem byteSize_of_ascii {text : List Char} (ascii : ∀ c ∈ text, c.toNat < 0x80) :
    byteSize text = text.length := by
  induction text with
  | nil => rfl
  | cons c rest ih =>
      have one : c.utf8Size = 1 :=
        Char.utf8Size_eq_one_iff.2 (Nat.le_of_lt_succ (ascii c List.mem_cons_self))
      have later := ih fun d member => ascii d (List.mem_cons_of_mem c member)
      rw [List.length_cons, ← later, Nat.add_comm, ← one]
      rfl

/-- The bytes at which the characters of a text begin that itself begins at a byte. -/
def charStarts (start : Nat) : List Char → List Nat
  | [] => []
  | c :: rest => start :: charStarts (start + c.utf8Size) rest

theorem charStarts_length (start : Nat) (text : List Char) :
    (charStarts start text).length = text.length := by
  induction text generalizing start with
  | nil => rfl
  | cons c rest ih => exact congrArg Nat.succ (ih _)

theorem charStarts_append (start : Nat) (left right : List Char) :
    charStarts start (left ++ right) =
      charStarts start left ++ charStarts (start + byteSize left) right := by
  induction left generalizing start with
  | nil => rfl
  | cons c rest ih =>
      rw [List.cons_append, charStarts, ih, Nat.add_assoc]
      rfl

/-- Counted from the end, the start of a character has the place that the character has. -/
theorem charStarts_from_end (front : List Char) (c : Char) (back : List Char) :
    (charStarts 0 (front ++ c :: back)).reverse[back.length]? = some (byteSize front) := by
  have size : (charStarts (0 + byteSize front + c.utf8Size) back).reverse.length = back.length := by
    rw [List.length_reverse, charStarts_length]
  rw [charStarts_append, charStarts, List.reverse_append, List.reverse_cons, List.append_assoc,
    List.getElem?_append_right (Nat.le_of_eq size), size, Nat.sub_self, Nat.zero_add]
  rfl

theorem charStarts_from_end_iff {text : List Char} {behind start : Nat} :
    (charStarts 0 text).reverse[behind]? = some start ↔
      ∃ front c back, text = front ++ c :: back ∧ back.length = behind ∧ byteSize front = start := by
  constructor
  · intro found
    have ⟨short, _⟩ := List.getElem?_eq_some_iff.1 found
    rw [List.length_reverse, charStarts_length] at short
    let place := text.length - (behind + 1)
    have inside : place < text.length := by omega
    have split : text = text.take place ++ text[place] :: text.drop (place + 1) := by
      rw [← List.drop_eq_getElem_cons inside, List.take_append_drop]
    have size : (text.drop (place + 1)).length = behind := by
      rw [List.length_drop]
      omega
    have own := charStarts_from_end (text.take place) text[place] (text.drop (place + 1))
    rw [← split, size] at own
    exact ⟨_, _, _, split, size, Option.some.inj (own.symm.trans found)⟩
  · intro parted
    have ⟨front, c, back, whole, size, same⟩ := parted
    rw [whole, ← size, charStarts_from_end, same]

/-- The characters before a byte and those from it on, unless the byte is within a character or
behind the end. -/
def cutAtByte? : Nat → List Char → Option (List Char × List Char)
  | 0, text => some ([], text)
  | _ + 1, [] => none
  | byte + 1, c :: rest =>
      if byte + 1 < c.utf8Size then none
      else (cutAtByte? (byte + 1 - c.utf8Size) rest).map fun (front, back) => (c :: front, back)

theorem cutAtByte_append (front back : List Char) :
    cutAtByte? (byteSize front) (front ++ back) = some (front, back) := by
  induction front with
  | nil => rw [byteSize, List.nil_append, cutAtByte?]
  | cons c rest ih =>
      have positive : 0 < c.utf8Size := c.utf8Size_pos
      have sizes : byteSize (c :: rest) = c.utf8Size + byteSize rest := rfl
      have ⟨byte, next⟩ : ∃ byte, byteSize (c :: rest) = byte + 1 :=
        Nat.exists_eq_add_one.2 (by omega)
      have left : byte + 1 - c.utf8Size = byteSize rest := by omega
      rw [next, List.cons_append, cutAtByte?, if_neg (by omega), left, ih]
      rfl

end GraphSchema.Text
