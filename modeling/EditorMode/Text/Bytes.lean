import EditorMode.Fault

/-!
# Byte offsets

Texts are lists of characters, but offsets into them count the bytes of their UTF-8 encoding.
`takeBytes` cuts a text at such an offset; it breaks off when the offset falls inside a character.
-/

set_option autoImplicit false

namespace EditorMode.Text

/-- The number of bytes that the text takes in UTF-8. -/
def byteLength (text : List Char) : Nat := text.foldr (fun c count => c.utf8Size + count) 0

@[simp]
theorem byteLength_nil : byteLength [] = 0 := rfl

@[simp]
theorem byteLength_cons (c : Char) (text : List Char) :
    byteLength (c :: text) = c.utf8Size + byteLength text := rfl

@[simp]
theorem byteLength_append (s t : List Char) :
    byteLength (s ++ t) = byteLength s + byteLength t := by
  induction s with
  | nil => rw [List.nil_append, byteLength_nil, Nat.zero_add]
  | cons c s ih => rw [List.cons_append, byteLength_cons, byteLength_cons, ih, Nat.add_assoc]

theorem byteLength_eq_zero_iff {text : List Char} : byteLength text = 0 ↔ text = [] := by
  cases text with
  | nil => simp
  | cons c rest =>
    have := c.utf8Size_pos
    simp only [byteLength_cons, reduceCtorEq, iff_false]
    omega

/-- The part of the text before the byte offset; all of it if the offset is past the end. -/
def takeBytes : List Char → Nat → Except Fault (List Char)
  | [], _ => .ok []
  | c :: rest, n =>
    if n = 0 then .ok []
    else if n < c.utf8Size then .error .insideCharacter
    else (takeBytes rest (n - c.utf8Size)).map (c :: ·)

theorem takeBytes_byteLength (s t : List Char) : takeBytes (s ++ t) (byteLength s) = .ok s := by
  induction s with
  | nil => cases t <;> simp [takeBytes]
  | cons c s ih =>
    have hc := c.utf8Size_pos
    rw [byteLength_cons, List.cons_append, takeBytes, if_neg (by omega), if_neg (by omega),
      Nat.add_sub_cancel_left, ih]
    rfl

end EditorMode.Text
