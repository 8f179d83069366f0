import Mathlib.Data.List.Infix

/-!
# Percent-encoded text

Decoding replaces every percent sign that two hexadecimal digits follow by the
byte they name and reads the bytes as UTF-8.  It gives back a text exactly if the
text has no such escape and no byte order mark in front, since an escape stands for
fewer bytes than its three characters take.
-/

namespace EduEbook.PercentEncoding

def hexValue (char : Char) : Option ℕ :=
  if '0' ≤ char ∧ char ≤ '9' then some (char.toNat - '0'.toNat)
  else if 'A' ≤ char ∧ char ≤ 'F' then some (char.toNat - 'A'.toNat + 10)
  else if 'a' ≤ char ∧ char ≤ 'f' then some (char.toNat - 'a'.toNat + 10)
  else none

def escapedByte (first second : Char) : Option UInt8 := do
  let high ← hexValue first
  let low ← hexValue second
  return UInt8.ofNat (16 * high + low)

/-- The bytes of a text with escapes.  A percent sign without two digits stands for
itself. -/
def decodedBytes : List Char → List UInt8
  | [] => []
  | '%' :: first :: second :: rest =>
      match escapedByte first second with
      | some byte => byte :: decodedBytes rest
      | none => String.utf8EncodeChar '%' ++ decodedBytes (first :: second :: rest)
  | char :: rest => String.utf8EncodeChar char ++ decodedBytes rest

def byteOrderMark : Char := '\uFEFF'

/-- A decoder of UTF-8 discards a byte order mark in front. -/
def dropByteOrderMark : List Char → List Char
  | [] => []
  | char :: rest => if char = byteOrderMark then rest else char :: rest

/-- The text that the bytes encode; malformed bytes have none. -/
def utf8Decode (bytes : List UInt8) : Option (List Char) :=
  bytes.toByteArray.utf8Decode?.map fun chars => dropByteOrderMark chars.toList

def decodeComponent (text : List Char) : Option (List Char) :=
  utf8Decode (decodedBytes text)

/-- Somewhere in the text two hexadecimal digits follow a percent sign. -/
def HasEscape (text : List Char) : Prop :=
  ∃ first second, (escapedByte first second).isSome ∧ ['%', first, second] <:+: text

def utf8Bytes (text : List Char) : List UInt8 := text.flatMap String.utf8EncodeChar

theorem hasEscape_cons {char : Char} {rest : List Char} (hrest : HasEscape rest) :
    HasEscape (char :: rest) := by
  obtain ⟨first, second, hbyte, hoccurs⟩ := hrest
  exact ⟨first, second, hbyte, hoccurs.trans (List.infix_cons (List.infix_refl rest))⟩

theorem decodedBytes_of_not_hasEscape {text : List Char} (htext : ¬HasEscape text) :
    decodedBytes text = utf8Bytes text := by
  fun_induction decodedBytes text with
  | case1 => rfl
  | case2 first second rest byte hbyte ih =>
      exact absurd ⟨first, second, by rw [hbyte]; rfl, [], rest, rfl⟩ htext
  | case3 first second rest hbyte ih =>
      rw [ih (mt hasEscape_cons htext)]
      rfl
  | case4 char rest hother ih =>
      rw [ih (mt hasEscape_cons htext)]
      rfl

@[simp]
theorem length_utf8Bytes_cons (char : Char) (rest : List Char) :
    (utf8Bytes (char :: rest)).length = char.utf8Size + (utf8Bytes rest).length := by
  simp [utf8Bytes]

/-- An escape at the start of a text is the first thing that is decoded. -/
theorem hasEscape_cons_iff {char : Char} {rest : List Char} :
    HasEscape (char :: rest) ↔
      (∃ first second, (escapedByte first second).isSome ∧ char = '%' ∧
        [first, second] <+: rest) ∨ HasEscape rest := by
  constructor
  · rintro ⟨first, second, hbyte, hoccurs⟩
    rcases List.infix_cons_iff.1 hoccurs with hprefix | hoccurs
    · obtain ⟨hchar, hprefix⟩ := List.cons_prefix_cons.1 hprefix
      exact .inl ⟨first, second, hbyte, hchar.symm, hprefix⟩
    · exact .inr ⟨first, second, hbyte, hoccurs⟩
  · rintro (⟨first, second, hbyte, rfl, hprefix⟩ | hrest)
    · refine ⟨first, second, hbyte, ?_⟩
      exact (List.cons_prefix_cons.2 ⟨rfl, hprefix⟩).isInfix
    · exact hasEscape_cons hrest

/-- Decoding never gives more bytes than the text has. -/
theorem length_decodedBytes_le (text : List Char) :
    (decodedBytes text).length ≤ (utf8Bytes text).length := by
  fun_induction decodedBytes text with
  | case1 => exact le_rfl
  | case2 first second rest byte hbyte ih =>
      rw [List.length_cons, length_utf8Bytes_cons, length_utf8Bytes_cons,
        length_utf8Bytes_cons]
      have hpercent := Char.utf8Size_pos '%'
      omega
  | case3 first second rest hbyte ih =>
      rw [List.length_append, length_utf8Bytes_cons, String.length_utf8EncodeChar]
      omega
  | case4 char rest hother ih =>
      rw [List.length_append, length_utf8Bytes_cons, String.length_utf8EncodeChar]
      omega

/-- An escape gives fewer bytes than its characters have. -/
theorem length_decodedBytes_lt {text : List Char} (htext : HasEscape text) :
    (decodedBytes text).length < (utf8Bytes text).length := by
  fun_induction decodedBytes text with
  | case1 =>
      obtain ⟨first, second, -, hoccurs⟩ := htext
      cases List.infix_nil.1 hoccurs
  | case2 first second rest byte hbyte ih =>
      have hpercent := Char.utf8Size_pos '%'
      have hfirst := Char.utf8Size_pos first
      calc
        (byte :: decodedBytes rest).length = (decodedBytes rest).length + 1 := rfl
        _ ≤ (utf8Bytes rest).length + 1 :=
          Nat.add_le_add_right (length_decodedBytes_le rest) 1
        _ < '%'.utf8Size + (first.utf8Size + (second.utf8Size + (utf8Bytes rest).length)) := by
          omega
        _ = (utf8Bytes ('%' :: first :: second :: rest)).length := by
          rw [length_utf8Bytes_cons, length_utf8Bytes_cons, length_utf8Bytes_cons]
  | case3 first second rest hbyte ih =>
      rw [List.length_append, length_utf8Bytes_cons, String.length_utf8EncodeChar]
      refine Nat.add_lt_add_left (ih ?_) _
      apply (hasEscape_cons_iff.1 htext).resolve_left
      rintro ⟨high, low, hsome, -, hprefix⟩
      obtain ⟨rfl, hlow⟩ := List.cons_prefix_cons.1 hprefix
      obtain ⟨rfl, -⟩ := List.cons_prefix_cons.1 hlow
      rw [hbyte] at hsome
      cases hsome
  | case4 char rest hother ih =>
      rw [List.length_append, length_utf8Bytes_cons, String.length_utf8EncodeChar]
      refine Nat.add_lt_add_left (ih ?_) _
      apply (hasEscape_cons_iff.1 htext).resolve_left
      rintro ⟨high, low, -, rfl, more, rfl⟩
      exact hother high low more rfl rfl

theorem utf8Bytes_of_utf8Decode? {bytes : List UInt8} {chars : Array Char}
    (hchars : bytes.toByteArray.utf8Decode? = some chars) :
    utf8Bytes chars.toList = bytes := by
  have hbytes : chars.toList.utf8Encode = bytes.toByteArray := by
    have hget : bytes.toByteArray.utf8Decode?.get (by rw [hchars]; rfl) = chars := by
      simp only [hchars, Option.get_some]
    rw [← hget, ByteArray.utf8Encode_get_utf8Decode?]
  have hlist := congrArg (fun array => array.data.toList) hbytes
  simpa [List.utf8Encode, utf8Bytes] using hlist

/-- What UTF-8 decodes to a text is the encoding of the text, or of the text after
a byte order mark. -/
theorem length_le_of_utf8Decode {bytes : List UInt8} {text : List Char}
    (hdecode : utf8Decode bytes = some text) :
    (utf8Bytes text).length ≤ bytes.length := by
  obtain ⟨chars, hchars, rfl⟩ := Option.map_eq_some_iff.1 hdecode
  rw [← utf8Bytes_of_utf8Decode? hchars]
  cases chars.toList with
  | nil => exact le_rfl
  | cons char rest =>
      rw [dropByteOrderMark]
      split
      · rw [length_utf8Bytes_cons]
        omega
      · exact le_rfl

theorem utf8Decode_utf8Bytes (text : List Char) :
    utf8Decode (utf8Bytes text) = some (dropByteOrderMark text) := by
  change (List.utf8Encode text).utf8Decode?.map _ = _
  rw [List.utf8Decode?_utf8Encode]
  rfl

theorem dropByteOrderMark_eq_self_iff {text : List Char} :
    dropByteOrderMark text = text ↔ text.head? ≠ some byteOrderMark := by
  cases text with
  | nil => exact iff_of_true rfl (Option.some_ne_none _).symm
  | cons char rest =>
      rw [dropByteOrderMark, List.head?_cons, Ne, Option.some.injEq]
      split
      · rename_i hmark
        exact iff_of_false (List.cons_ne_self char rest).symm (not_not_intro hmark)
      · rename_i hmark
        exact iff_of_true rfl hmark

/-- The texts that decode to themselves. -/
theorem decodeComponent_eq_self_iff {text : List Char} :
    decodeComponent text = some text ↔
      ¬HasEscape text ∧ text.head? ≠ some byteOrderMark := by
  constructor
  · intro hdecode
    have hescape : ¬HasEscape text := fun hescape =>
      absurd (length_le_of_utf8Decode hdecode)
        (Nat.not_le.2 (length_decodedBytes_lt hescape))
    rw [decodeComponent, decodedBytes_of_not_hasEscape hescape, utf8Decode_utf8Bytes,
      Option.some.injEq] at hdecode
    exact ⟨hescape, dropByteOrderMark_eq_self_iff.1 hdecode⟩
  · rintro ⟨hescape, hmark⟩
    rw [decodeComponent, decodedBytes_of_not_hasEscape hescape, utf8Decode_utf8Bytes,
      dropByteOrderMark_eq_self_iff.2 hmark]

theorem hexValue_isSome_of_escapedByte {first second : Char}
    (hbyte : (escapedByte first second).isSome) :
    (hexValue first).isSome ∧ (hexValue second).isSome := by
  rw [escapedByte] at hbyte
  cases hfirst : hexValue first with
  | none =>
      rw [hfirst] at hbyte
      cases hbyte
  | some high =>
      cases hsecond : hexValue second with
      | none =>
          rw [hfirst, hsecond] at hbyte
          cases hbyte
      | some low => exact ⟨rfl, rfl⟩

/-- A part without `char` that occurs in a text around `char` occurs on one side. -/
theorem isInfix_append_cons {α : Type*} {part left right : List α} {char : α}
    (hpart : char ∉ part) (hoccurs : part <:+: left ++ char :: right) :
    part <:+: left ∨ part <:+: right := by
  obtain ⟨before, after, heq⟩ := hoccurs
  rcases List.append_eq_append_iff.1 heq with ⟨rest, hleft, -⟩ | ⟨rest, hleft, hright⟩
  · exact .inl ⟨before, rest, hleft.symm⟩
  · cases rest with
    | nil => exact .inl ⟨before, [], by rw [hleft, List.append_nil, List.append_nil]⟩
    | cons head tail =>
        obtain ⟨rfl, rfl⟩ := List.cons_eq_cons.1 hright
        -- The part starts on one side of the character, which it does not contain.
        rcases List.append_eq_append_iff.1 hleft with
          ⟨other, -, hother⟩ | ⟨other, -, hother⟩
        · rw [hother] at hpart
          exact absurd (List.mem_append_right other List.mem_cons_self) hpart
        · cases other with
          | nil =>
              rw [List.nil_append] at hother
              rw [← hother] at hpart
              exact absurd List.mem_cons_self hpart
          | cons first other =>
              obtain ⟨-, rfl⟩ := List.cons_eq_cons.1 hother
              exact .inr ⟨other, after, rfl⟩

/-- No escape reaches over a character that is neither a percent sign nor a digit. -/
theorem hasEscape_append_cons_iff {left right : List Char} {char : Char}
    (hpercent : char ≠ '%') (hdigit : hexValue char = none) :
    HasEscape (left ++ char :: right) ↔ HasEscape left ∨ HasEscape right := by
  constructor
  · rintro ⟨first, second, hbyte, hoccurs⟩
    have hpart : char ∉ ['%', first, second] := by
      have hvalues := hexValue_isSome_of_escapedByte hbyte
      intro hmem
      rcases List.mem_cons.1 hmem with rfl | hmem
      · exact hpercent rfl
      · rcases List.mem_pair.1 hmem with rfl | rfl
        · rw [hdigit] at hvalues
          cases hvalues.1
        · rw [hdigit] at hvalues
          cases hvalues.2
    rcases isInfix_append_cons hpart hoccurs with hleft | hright
    · exact .inl ⟨first, second, hbyte, hleft⟩
    · exact .inr ⟨first, second, hbyte, hright⟩
  · rintro (⟨first, second, hbyte, hoccurs⟩ | ⟨first, second, hbyte, hoccurs⟩)
    · exact ⟨first, second, hbyte,
        hoccurs.trans (List.prefix_append left (char :: right)).isInfix⟩
    · exact ⟨first, second, hbyte, hoccurs.trans
        (List.infix_cons (List.infix_refl right)) |>.trans
          (List.suffix_append left (char :: right)).isInfix⟩

/-- A text without a percent sign has no escape. -/
theorem not_hasEscape_of_notMem {text : List Char} (htext : '%' ∉ text) :
    ¬HasEscape text := by
  rintro ⟨first, second, -, hoccurs⟩
  exact htext (hoccurs.subset List.mem_cons_self)

end EduEbook.PercentEncoding
