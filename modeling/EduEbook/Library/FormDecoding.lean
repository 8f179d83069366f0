import EduEbook.Library.FirstSymbol
import EduEbook.Library.PercentEncoding

/-!
# Text in the query of a url

A parsed url has every character that may not stand in it escaped.  The receiver
cuts out the query, splits it into parameters and decodes them as a form does.
Normalising never changes what is decoded, so a text that was put into the query
arrives exactly if it has nothing that the receiver reads as a delimiter, a blank or
an escape.
-/

namespace EduEbook.FormDecoding

open EduEbook.FirstSymbol
open EduEbook.PercentEncoding

def hexDigit (value : ℕ) : Char :=
  Char.ofNat (if value < 10 then '0'.toNat + value else 'A'.toNat + value - 10)

def escapeByte (byte : UInt8) : List Char :=
  ['%', hexDigit (byte.toNat / 16), hexDigit (byte.toNat % 16)]

def escapeChar (char : Char) : List Char :=
  (String.utf8EncodeChar char).flatMap escapeByte

/-- The characters that may stand in a query, and the sign that ends it. -/
def allowed (char : Char) : Bool :=
  char.isAlphanum || "-._~!$&'()*+,;=:@/?#".toList.contains char

/-- Escape what is not allowed.  An escape stays as it is, and a percent sign that
begins none is escaped itself. -/
def normalize : List Char → List Char
  | [] => []
  | '%' :: first :: second :: rest =>
      match escapedByte first second with
      | some _ => '%' :: first :: second :: normalize rest
      | none => escapeChar '%' ++ normalize (first :: second :: rest)
  | char :: rest => (if allowed char then [char] else escapeChar char) ++ normalize rest

def plusToSpace (char : Char) : Char := if char = '+' then ' ' else char

def formBytes (text : List Char) : List UInt8 := decodedBytes (text.map plusToSpace)

/-- The text that the bytes encode in UTF-8, if they encode one. -/
def utf8Text (bytes : List UInt8) : Option (List Char) :=
  bytes.toByteArray.utf8Decode?.map Array.toList

def formDecode (text : List Char) : Option (List Char) := utf8Text (formBytes text)

/-- What stands behind the first question mark and before any number sign. -/
def queryPart (url : List Char) : List Char :=
  ((url.takeWhile fun char => char ≠ '#').dropWhile fun char => char ≠ '?').tail

/-- A part is split at its first equals sign; a part without one has an empty
value. -/
def parameter (part : List Char) : Option (List Char) × Option (List Char) :=
  (formDecode (part.takeWhile fun char => char ≠ '='),
    formDecode (part.dropWhile fun char => char ≠ '=').tail)

def parameters (query : List Char) : List (Option (List Char) × Option (List Char)) :=
  ((query.splitOn '&').filter fun part => part ≠ []).map parameter

theorem utf8Text_utf8Bytes (text : List Char) : utf8Text (utf8Bytes text) = some text := by
  change (List.utf8Encode text).utf8Decode?.map Array.toList = some text
  rw [List.utf8Decode?_utf8Encode]
  rfl

theorem utf8Text_eq_some_iff {bytes : List UInt8} {text : List Char} :
    utf8Text bytes = some text ↔ bytes = utf8Bytes text := by
  constructor
  · intro hdecode
    obtain ⟨chars, hchars, rfl⟩ := Option.map_eq_some_iff.1 hdecode
    exact (utf8Bytes_of_utf8Decode? hchars).symm
  · rintro rfl
    exact utf8Text_utf8Bytes text

theorem utf8Bytes_injective : Function.Injective utf8Bytes := by
  intro left right heq
  apply Option.some.inj
  rw [← utf8Text_utf8Bytes left, heq, utf8Text_utf8Bytes]

theorem hexValue_hexDigit {value : ℕ} (hvalue : value < 16) :
    hexValue (hexDigit value) = some value := by
  revert value
  decide

theorem escapedByte_hexDigit (byte : UInt8) :
    escapedByte (hexDigit (byte.toNat / 16)) (hexDigit (byte.toNat % 16)) = some byte := by
  have hbyte : byte.toNat < 256 := byte.toNat_lt
  rw [escapedByte, hexValue_hexDigit (by omega), hexValue_hexDigit (by omega)]
  change some (UInt8.ofNat (16 * (byte.toNat / 16) + byte.toNat % 16)) = some byte
  rw [Nat.div_add_mod, UInt8.ofNat_toNat]

theorem plusToSpace_eq_iff {char other : Char} (hspace : other ≠ ' ') (hplus : other ≠ '+') :
    plusToSpace char = other ↔ char = other := by
  rw [plusToSpace]
  split_ifs with hchar
  · rw [hchar]
    exact iff_of_false hspace.symm hplus.symm
  · rfl

theorem hexValue_plusToSpace (char : Char) :
    hexValue (plusToSpace char) = hexValue char := by
  rw [plusToSpace]
  split_ifs with hchar
  · rw [hchar]
    rfl
  · rfl

theorem escapedByte_plusToSpace (first second : Char) :
    escapedByte (plusToSpace first) (plusToSpace second) = escapedByte first second := by
  rw [escapedByte, hexValue_plusToSpace, hexValue_plusToSpace, escapedByte]

/-- A character that begins no escape is encoded alone. -/
theorem formBytes_cons {char : Char} {rest : List Char}
    (hescape : ∀ first second more, char = '%' → rest = first :: second :: more →
      escapedByte first second = none) :
    formBytes (char :: rest) =
      String.utf8EncodeChar (plusToSpace char) ++ formBytes rest := by
  rw [formBytes, List.map_cons]
  by_cases hshape : char = '%' ∧ ∃ first second more, rest = first :: second :: more
  · obtain ⟨rfl, first, second, more, rfl⟩ := hshape
    have hbyte := hescape first second more rfl rfl
    change decodedBytes ('%' :: plusToSpace first :: plusToSpace second :: _) = _
    rw [decodedBytes, escapedByte_plusToSpace, hbyte]
    rfl
  · rw [decodedBytes]
    · rfl
    · intro first second more hchar hrest
      obtain ⟨_, _, rfl, -, hmore⟩ := List.map_eq_cons_iff.1 hrest
      obtain ⟨_, _, rfl, -, -⟩ := List.map_eq_cons_iff.1 hmore
      exact hshape ⟨(plusToSpace_eq_iff (by decide) (by decide)).1 hchar, _, _, _, rfl⟩

theorem formBytes_percent {first second : Char}
    (hbyte : escapedByte first second = none) (rest : List Char) :
    formBytes ('%' :: first :: second :: rest) =
      String.utf8EncodeChar '%' ++ formBytes (first :: second :: rest) := by
  apply formBytes_cons
  intro _ _ _ _ hrest
  cases hrest
  exact hbyte

theorem formBytes_escape {first second : Char} {byte : UInt8}
    (hbyte : escapedByte first second = some byte) (rest : List Char) :
    formBytes ('%' :: first :: second :: rest) = byte :: formBytes rest := by
  rw [formBytes, List.map_cons, List.map_cons, List.map_cons]
  change decodedBytes ('%' :: plusToSpace first :: plusToSpace second :: _) = _
  rw [decodedBytes, escapedByte_plusToSpace, hbyte]
  rfl

theorem formBytes_escapeChar_append (char : Char) (rest : List Char) :
    formBytes (escapeChar char ++ rest) =
      String.utf8EncodeChar char ++ formBytes rest := by
  rw [escapeChar]
  induction String.utf8EncodeChar char with
  | nil => rfl
  | cons byte bytes ih =>
      rw [List.flatMap_cons, List.append_assoc, escapeByte]
      change formBytes ('%' :: _ :: _ :: _) = _
      rw [formBytes_escape (escapedByte_hexDigit byte)]
      exact congrArg (byte :: ·) ih

/-- What may not stand in a url is decoded to itself once it is escaped. -/
theorem formBytes_normalize (text : List Char) : formBytes (normalize text) = formBytes text := by
  fun_induction normalize text with
  | case1 => rfl
  | case2 first second rest byte hbyte ih =>
      rw [formBytes_escape hbyte, formBytes_escape hbyte, ih]
  | case3 first second rest hbyte ih =>
      rw [formBytes_escapeChar_append, ih, formBytes_percent hbyte]
  | case4 char rest hother ih =>
      rw [formBytes_cons fun _ _ _ h hrest => (hother _ _ _ h hrest).elim]
      split_ifs with hallowed
      · have hchar : char ≠ '%' := by
          rintro rfl
          exact absurd hallowed (by decide)
        rw [List.singleton_append, formBytes_cons fun _ _ _ h => absurd h hchar, ih]
      · have hchar : char ≠ '+' := by
          rintro rfl
          exact hallowed (by decide)
        rw [formBytes_escapeChar_append, ih, plusToSpace, if_neg hchar]

/-- A delimiter is neither a percent sign nor a digit of an escape. -/
def Delimiter (char : Char) : Prop := char ≠ '%' ∧ hexValue char = none

theorem escapedByte_of_left {first second : Char} (hfirst : hexValue first = none) :
    escapedByte first second = none := by
  rw [escapedByte, hfirst]
  rfl

theorem escapedByte_of_right {first second : Char} (hsecond : hexValue second = none) :
    escapedByte first second = none := by
  rw [escapedByte, hsecond]
  cases hexValue first with
  | none => rfl
  | some high => rfl

/-- Nothing is read across a delimiter. -/
theorem formBytes_append_delimiter {char : Char} (hchar : Delimiter char)
    (left right : List Char) :
    formBytes (left ++ char :: right) = formBytes left ++ formBytes (char :: right) := by
  induction left using decodedBytes.induct with
  | case1 => rfl
  | case2 first second rest byte hbyte ih =>
      rw [formBytes_escape hbyte]
      exact (formBytes_escape hbyte _).trans (congrArg (byte :: ·) ih)
  | case3 first second rest hbyte ih =>
      calc formBytes ('%' :: first :: second :: (rest ++ char :: right))
        _ = String.utf8EncodeChar '%' ++ formBytes (first :: second :: rest ++ char :: right) :=
            formBytes_percent hbyte _
        _ = String.utf8EncodeChar '%' ++
              (formBytes (first :: second :: rest) ++ formBytes (char :: right)) := by rw [ih]
        _ = formBytes ('%' :: first :: second :: rest) ++ formBytes (char :: right) := by
            rw [formBytes_percent hbyte, List.append_assoc]
  | case4 head rest hother ih =>
      have hleft : formBytes (head :: rest) =
          String.utf8EncodeChar (plusToSpace head) ++ formBytes rest :=
        formBytes_cons fun _ _ _ h hrest => (hother _ _ _ h hrest).elim
      rw [List.cons_append, formBytes_cons, ih, hleft, List.append_assoc]
      · intro first second more hhead hrest
        cases rest with
        | nil =>
            obtain ⟨rfl, -⟩ := List.cons.inj hrest
            exact escapedByte_of_left hchar.2
        | cons second rest =>
            cases rest with
            | nil =>
                obtain ⟨-, hrest⟩ := List.cons.inj hrest
                obtain ⟨rfl, -⟩ := List.cons.inj hrest
                exact escapedByte_of_right hchar.2
            | cons third rest => exact (hother _ _ _ hhead rfl).elim

theorem length_formBytes_takeWhile_lt {char : Char} (hchar : Delimiter char)
    {text : List Char} (htext : char ∈ text) :
    (formBytes (text.takeWhile fun other => other ≠ char)).length <
      (formBytes text).length := by
  obtain ⟨left, right, rfl, hleft⟩ := List.eq_append_cons_of_mem htext
  have hescape : ∀ first second more, char = '%' → right = first :: second :: more →
      escapedByte first second = none := fun _ _ _ h => absurd h hchar.1
  have hsize := Char.utf8Size_pos (plusToSpace char)
  rw [takeWhile_ne hleft, formBytes_append_delimiter hchar, formBytes_cons hescape,
    List.length_append, List.length_append, String.length_utf8EncodeChar]
  omega

theorem length_formBytes_takeWhile_le {char : Char} (hchar : Delimiter char)
    (text : List Char) :
    (formBytes (text.takeWhile fun other => other ≠ char)).length ≤
      (formBytes text).length := by
  by_cases htext : char ∈ text
  · exact (length_formBytes_takeWhile_lt hchar htext).le
  · rw [takeWhile_ne_of_notMem htext]

theorem hasEscape_map_plusToSpace (text : List Char) :
    HasEscape (text.map plusToSpace) ↔ HasEscape text := by
  constructor
  · rintro ⟨first, second, hbyte, hoccurs⟩
    obtain ⟨part, hpart, hmap⟩ := List.infix_map_iff.1 hoccurs
    obtain ⟨char, digits, rfl, hchar, hdigits⟩ := List.map_eq_cons_iff.1 hmap.symm
    obtain ⟨high, digit, rfl, rfl, hdigit⟩ := List.map_eq_cons_iff.1 hdigits
    obtain ⟨low, none, rfl, rfl, hnil⟩ := List.map_eq_cons_iff.1 hdigit
    rw [escapedByte_plusToSpace] at hbyte
    rw [(plusToSpace_eq_iff (by decide) (by decide)).1 hchar,
      List.map_eq_nil_iff.1 hnil] at hpart
    exact ⟨high, low, hbyte, hpart⟩
  · rintro ⟨first, second, hbyte, hoccurs⟩
    exact ⟨plusToSpace first, plusToSpace second, by rwa [escapedByte_plusToSpace],
      hoccurs.map plusToSpace⟩

theorem length_utf8Bytes_map_plusToSpace (text : List Char) :
    (utf8Bytes (text.map plusToSpace)).length = (utf8Bytes text).length := by
  induction text with
  | nil => rfl
  | cons char text ih =>
      have hsize : (plusToSpace char).utf8Size = char.utf8Size := by
        rw [plusToSpace]
        split_ifs with hchar
        · rw [hchar]
          rfl
        · rfl
      rw [List.map_cons, length_utf8Bytes_cons, length_utf8Bytes_cons, ih, hsize]

theorem length_formBytes_le (text : List Char) :
    (formBytes text).length ≤ (utf8Bytes text).length :=
  calc (formBytes text).length
    _ ≤ (utf8Bytes (text.map plusToSpace)).length := length_decodedBytes_le _
    _ = (utf8Bytes text).length := length_utf8Bytes_map_plusToSpace text

theorem map_plusToSpace_eq_self_iff (text : List Char) :
    text.map plusToSpace = text ↔ '+' ∉ text := by
  constructor
  · intro heq hplus
    rw [← heq] at hplus
    obtain ⟨char, -, hchar⟩ := List.mem_map.1 hplus
    rw [plusToSpace] at hchar
    split_ifs at hchar with hother
    · cases hchar
    · exact hother hchar
  · intro hplus
    calc text.map plusToSpace
      _ = text.map id := by
          apply List.map_congr_left
          intro char hchar
          exact if_neg fun heq : char = '+' => hplus (heq ▸ hchar)
      _ = text := List.map_id text

theorem formBytes_eq_utf8Bytes_iff (text : List Char) :
    formBytes text = utf8Bytes text ↔ '+' ∉ text ∧ ¬HasEscape text := by
  rw [← map_plusToSpace_eq_self_iff]
  constructor
  · intro heq
    have hescape : ¬HasEscape (text.map plusToSpace) := by
      intro hescape
      have hlength := length_decodedBytes_lt hescape
      rw [length_utf8Bytes_map_plusToSpace, ← heq] at hlength
      exact lt_irrefl _ hlength
    rw [formBytes, decodedBytes_of_not_hasEscape hescape] at heq
    rw [hasEscape_map_plusToSpace] at hescape
    exact ⟨utf8Bytes_injective heq, hescape⟩
  · rintro ⟨heq, hescape⟩
    rw [formBytes, heq, decodedBytes_of_not_hasEscape hescape]

theorem hexDigit_ne {char : Char} (hchar : Delimiter char) {value : ℕ} (hvalue : value < 16) :
    hexDigit value ≠ char := by
  rintro rfl
  have hnone := hchar.2
  rw [hexValue_hexDigit hvalue] at hnone
  cases hnone

theorem notMem_escapeChar {char : Char} (hchar : Delimiter char) (other : Char) :
    char ∉ escapeChar other := by
  intro hmem
  obtain ⟨byte, -, hmem⟩ := List.mem_flatMap.1 hmem
  have hbyte : byte.toNat < 256 := byte.toNat_lt
  rw [escapeByte, List.mem_cons, List.mem_pair] at hmem
  rcases hmem with hmem | hmem | hmem
  · exact hchar.1 hmem
  · exact hexDigit_ne hchar (by omega) hmem.symm
  · exact hexDigit_ne hchar (by omega) hmem.symm

/-- Delimiters that are allowed stay, and no others come in. -/
theorem mem_normalize_iff {char : Char} (hchar : Delimiter char)
    (hallowed : allowed char = true) (text : List Char) :
    char ∈ normalize text ↔ char ∈ text := by
  fun_induction normalize text with
  | case1 => rfl
  | case2 first second rest byte hbyte ih =>
      simp only [List.mem_cons, ih]
  | case3 first second rest hbyte ih =>
      rw [List.mem_append, ih, or_iff_right (notMem_escapeChar hchar '%')]
      rw [List.mem_cons (a := char) (b := '%'), or_iff_right hchar.1]
  | case4 other rest hother ih =>
      rw [List.mem_append, ih, List.mem_cons]
      split_ifs with hsome
      · rw [List.mem_singleton]
      · rw [or_iff_right (notMem_escapeChar hchar other), or_iff_right]
        rintro rfl
        exact hsome hallowed

theorem formDecode_eq_some_iff {text decoded : List Char} :
    formDecode text = some decoded ↔ formBytes text = utf8Bytes decoded :=
  utf8Text_eq_some_iff

/-- A character that no reader of a url takes for anything but itself. -/
def Plain (char : Char) : Prop :=
  allowed char = true ∧ char ∉ ['%', '&', '=', '+', '?', '#']

instance : DecidablePred Plain := fun char =>
  inferInstanceAs (Decidable (allowed char = true ∧ char ∉ ['%', '&', '=', '+', '?', '#']))

theorem notMem_of_plain {text : List Char} (htext : ∀ char ∈ text, Plain char)
    {delimiter : Char} (hdelimiter : delimiter ∈ ['%', '&', '=', '+', '?', '#']) :
    delimiter ∉ text :=
  fun hmem => (htext delimiter hmem).2 hdelimiter

theorem normalize_cons_of_allowed {char : Char} (hallowed : allowed char = true)
    (rest : List Char) : normalize (char :: rest) = char :: normalize rest := by
  rw [normalize, if_pos hallowed, List.singleton_append]
  rintro first second more rfl -
  exact absurd hallowed (by decide)

theorem normalize_append_of_plain {front : List Char} (hfront : ∀ char ∈ front, Plain char)
    (rest : List Char) : normalize (front ++ rest) = front ++ normalize rest := by
  induction front with
  | nil => rfl
  | cons char front ih =>
      rw [List.forall_mem_cons] at hfront
      rw [List.cons_append, normalize_cons_of_allowed hfront.1.1, ih hfront.2,
        List.cons_append]

theorem formDecode_of_plain {name : List Char} (hname : ∀ char ∈ name, Plain char) :
    formDecode name = some name := by
  rw [formDecode_eq_some_iff, formBytes_eq_utf8Bytes_iff]
  exact ⟨notMem_of_plain hname (by simp),
    not_hasEscape_of_notMem (notMem_of_plain hname (by simp))⟩

theorem takeWhile_ne_append {left : List Char} {char : Char} (hleft : char ∉ left)
    (right : List Char) :
    ((left ++ right).takeWhile fun other => other ≠ char) =
      left ++ right.takeWhile fun other => other ≠ char := by
  apply List.takeWhile_append_of_pos
  intro other hother
  exact decide_eq_true fun heq : other = char => hleft (heq ▸ hother)

/-- The parameter that the text was put into, read back from the url. -/
theorem queryPart_normalize {front name : List Char} (hfront : ∀ char ∈ front, Plain char)
    (hname : ∀ char ∈ name, Plain char) (text : List Char) :
    queryPart (normalize (front ++ '?' :: (name ++ '=' :: text))) =
      name ++ '=' :: (normalize text).takeWhile fun char => char ≠ '#' := by
  rw [normalize_append_of_plain hfront, normalize_cons_of_allowed (by decide),
    normalize_append_of_plain hname, normalize_cons_of_allowed (by decide), queryPart,
    takeWhile_ne_append (notMem_of_plain hfront (by simp)),
    List.takeWhile_cons_of_pos (by decide),
    takeWhile_ne_append (notMem_of_plain hname (by simp)),
    List.takeWhile_cons_of_pos (by decide),
    dropWhile_ne (notMem_of_plain hfront (by simp)), List.tail_cons]

theorem splitOn_eq_cons (char : Char) (text : List Char) :
    ∃ others, text.splitOn char = (text.takeWhile fun other => other ≠ char) :: others := by
  by_cases htext : char ∈ text
  · obtain ⟨left, right, rfl, hleft⟩ := List.eq_append_cons_of_mem htext
    rw [takeWhile_ne hleft, List.splitOn_append_cons_self_of_not_mem hleft]
    exact ⟨_, rfl⟩
  · rw [takeWhile_ne_of_notMem htext, List.splitOn_eq_singleton htext]
    exact ⟨[], rfl⟩

theorem parameter_append {name : List Char} (hname : ∀ char ∈ name, Plain char)
    (value : List Char) :
    parameter (name ++ '=' :: value) = (some name, formDecode value) := by
  have hequals : '=' ∉ name := notMem_of_plain hname (by simp)
  rw [parameter, takeWhile_ne hequals, dropWhile_ne hequals, formDecode_of_plain hname,
    List.tail_cons]

/-- The value of the first parameter ends at the first ampersand. -/
theorem exists_parameters_eq_cons {name : List Char} (hname : ∀ char ∈ name, Plain char)
    (value : List Char) :
    ∃ others, parameters (name ++ '=' :: value) =
      (some name, formDecode (value.takeWhile fun char => char ≠ '&')) :: others := by
  obtain ⟨others, hsplit⟩ := splitOn_eq_cons '&' (name ++ '=' :: value)
  rw [parameters, hsplit, takeWhile_ne_append (notMem_of_plain hname (by simp)),
    List.takeWhile_cons_of_pos (by decide), List.filter_cons_of_pos (by simp),
    List.map_cons, parameter_append hname]
  exact ⟨_, rfl⟩

theorem parameters_of_notMem {name value : List Char} (hname : ∀ char ∈ name, Plain char)
    (hvalue : '&' ∉ value) :
    parameters (name ++ '=' :: value) = [(some name, formDecode value)] := by
  have hpart : '&' ∉ name ++ '=' :: value := by
    rw [List.mem_append, List.mem_cons]
    simp [hvalue, notMem_of_plain hname]
  rw [parameters, List.splitOn_eq_singleton hpart, List.filter_cons_of_pos (by simp),
    List.filter_nil, List.map_singleton, parameter_append hname]

/-- A text put into a query as it is arrives as the one parameter exactly if it has no
character that a reader of the query takes for something else. -/
theorem parameters_eq_singleton_iff {front name : List Char}
    (hfront : ∀ char ∈ front, Plain char) (hname : ∀ char ∈ name, Plain char)
    (text : List Char) :
    parameters (queryPart (normalize (front ++ '?' :: (name ++ '=' :: text)))) =
        [(some name, some text)] ↔
      '&' ∉ text ∧ '#' ∉ text ∧ '+' ∉ text ∧ ¬HasEscape text := by
  have hamp : Delimiter '&' := ⟨by decide, rfl⟩
  have hhash : Delimiter '#' := ⟨by decide, rfl⟩
  rw [queryPart_normalize hfront hname, ← mem_normalize_iff hamp (by decide),
    ← mem_normalize_iff hhash (by decide)]
  constructor
  · intro hparameters
    obtain ⟨others, hcons⟩ := exists_parameters_eq_cons hname
      ((normalize text).takeWhile fun char => char ≠ '#')
    have hvalue : formBytes (((normalize text).takeWhile fun char => char ≠ '#').takeWhile
        fun char => char ≠ '&') = utf8Bytes text := by
      rw [hparameters] at hcons
      apply formDecode_eq_some_iff.1
      exact (Prod.mk.inj (List.cons.inj hcons).1).2.symm
    -- A text that ends early stands for fewer bytes than it has.
    have hlength : (utf8Bytes text).length ≥ (formBytes (normalize text)).length := by
      rw [formBytes_normalize]
      exact length_formBytes_le text
    have hnumber : '#' ∉ normalize text := by
      intro hmem
      have hlt := length_formBytes_takeWhile_lt hhash hmem
      have hle := length_formBytes_takeWhile_le hamp
        ((normalize text).takeWhile fun char => char ≠ '#')
      rw [hvalue] at hle
      omega
    rw [takeWhile_ne_of_notMem hnumber] at hvalue
    have hampersand : '&' ∉ normalize text := by
      intro hmem
      have hlt := length_formBytes_takeWhile_lt hamp hmem
      rw [hvalue] at hlt
      omega
    rw [takeWhile_ne_of_notMem hampersand, formBytes_normalize,
      formBytes_eq_utf8Bytes_iff] at hvalue
    exact ⟨hampersand, hnumber, hvalue⟩
  · rintro ⟨hampersand, hnumber, hplain⟩
    rw [takeWhile_ne_of_notMem hnumber, parameters_of_notMem hname hampersand]
    congr 2
    rw [formDecode_eq_some_iff, formBytes_normalize, formBytes_eq_utf8Bytes_iff]
    exact hplain

end EduEbook.FormDecoding
