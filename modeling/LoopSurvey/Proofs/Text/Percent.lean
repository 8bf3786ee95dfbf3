import LoopSurvey.Text.Percent
import LoopSurvey.Json.Reader
import Mathlib.Data.List.Infix
/-!
# Percent-encoded texts are read back

- `decode?` reads a text that may hold escapes; `decode?_encode`: it undoes the encoding of any text;
- `not_mem_encode`: an encoded text consists of unreserved characters and percent signs;
- `decode?_eq_self_iff`: a text that nobody encoded is read as itself exactly where it has no escape.
-/

namespace LoopSurvey.Text.Percent

open Json.Reader (hexDigit?)

/-- The bytes that a text stands for. An escape is a percent sign with two hexadecimal digits and stands for one
byte; any other character stands for its UTF-8 form. -/
def decodeBytes : List Char → List UInt8
  | [] => []
  | '%' :: a :: b :: rest =>
    match hexDigit? a, hexDigit? b with
    | some high, some low => UInt8.ofNat (16 * high + low) :: decodeBytes rest
    | _, _ => String.utf8EncodeChar '%' ++ decodeBytes (a :: b :: rest)
  | c :: rest => String.utf8EncodeChar c ++ decodeBytes rest

/-- The text that a percent-encoded text stands for, if its bytes are UTF-8. -/
def decode? (s : String) : Option String := String.fromUTF8? (decodeBytes s.toList).toByteArray

/-- Somewhere in the text there is an escape. -/
def HasEscape (cs : List Char) : Prop :=
  ∃ a b, (hexDigit? a).isSome ∧ (hexDigit? b).isSome ∧ ['%', a, b] <:+: cs

/-! ## Reading encoded texts -/

theorem hexDigit?_hexDigit {n : Nat} (h : n < 16) : hexDigit? (hexDigit n) = some n := by
  have hall : ∀ m : Fin 16, hexDigit? (hexDigit m) = some m.val := by decide
  exact hall ⟨n, h⟩

theorem hexDigit_unreserved {n : Nat} (h : n < 16) : isUnreserved (hexDigit n) = true := by
  have hall : ∀ m : Fin 16, isUnreserved (hexDigit m) = true := by decide
  exact hall ⟨n, h⟩

/-- Only percent signs begin escapes. -/
theorem decodeBytes_cons_of_ne {c : Char} (h : c ≠ '%') (rest : List Char) :
    decodeBytes (c :: rest) = String.utf8EncodeChar c ++ decodeBytes rest := by
  rw [decodeBytes]
  intro a b tail hc
  exact absurd hc h

theorem decodeBytes_encodeByte (b : UInt8) (rest : List Char) :
    decodeBytes (encodeByte b ++ rest) = b :: decodeBytes rest := by
  have hb : b.toNat < 256 := UInt8.toNat_lt b
  have hhigh : hexDigit? (hexDigit (b.toNat / 16)) = some (b.toNat / 16) := hexDigit?_hexDigit (by omega)
  have hlow : hexDigit? (hexDigit (b.toNat % 16)) = some (b.toNat % 16) := hexDigit?_hexDigit (by omega)
  have hvalue : 16 * (b.toNat / 16) + b.toNat % 16 = b.toNat := Nat.div_add_mod _ _
  rw [encodeByte, List.cons_append, List.cons_append, List.cons_append, List.nil_append, decodeBytes, hhigh, hlow]
  simp only [hvalue, UInt8.ofNat_toNat]

theorem decodeBytes_encodeBytes (bs : List UInt8) (rest : List Char) :
    decodeBytes (bs.flatMap encodeByte ++ rest) = bs ++ decodeBytes rest := by
  induction bs with
  | nil => rfl
  | cons b bs ih => rw [List.flatMap_cons, List.append_assoc, decodeBytes_encodeByte, ih, List.cons_append]

theorem decodeBytes_encodeChar (c : Char) (rest : List Char) :
    decodeBytes (encodeChar c ++ rest) = String.utf8EncodeChar c ++ decodeBytes rest := by
  unfold encodeChar
  split
  · next h =>
    have hc : c ≠ '%' := by
      rintro rfl
      exact absurd h (by decide)
    exact decodeBytes_cons_of_ne hc rest
  · exact decodeBytes_encodeBytes _ _

theorem decodeBytes_encodeChars (cs : List Char) :
    decodeBytes (cs.flatMap encodeChar) = cs.flatMap String.utf8EncodeChar := by
  induction cs with
  | nil => rfl
  | cons c cs ih => rw [List.flatMap_cons, decodeBytes_encodeChar, ih, List.flatMap_cons]

theorem fromUTF8?_utf8Encode (s : String) :
    String.fromUTF8? (s.toList.flatMap String.utf8EncodeChar).toByteArray = some s := by
  have hbytes : (s.toList.flatMap String.utf8EncodeChar).toByteArray = s.toByteArray := String.utf8Encode_toList
  rw [hbytes]
  exact dif_pos s.isValidUTF8

/-- **Encoded texts are read back.** -/
theorem decode?_encode (s : String) : decode? (encode s) = some s := by
  rw [decode?, encode, String.toList_ofList, decodeBytes_encodeChars, fromUTF8?_utf8Encode]

/-- What an encoded text consists of. -/
theorem unreserved_of_mem_encode {s : String} {c : Char} (h : c ∈ (encode s).toList) :
    isUnreserved c = true ∨ c = '%' := by
  rw [encode, String.toList_ofList, List.mem_flatMap] at h
  obtain ⟨d, -, hd⟩ := h
  unfold encodeChar at hd
  split at hd
  · next hunreserved =>
    rw [List.mem_singleton.1 hd]
    exact Or.inl hunreserved
  · obtain ⟨b, -, hb⟩ := List.mem_flatMap.1 hd
    have hlt : b.toNat < 256 := UInt8.toNat_lt b
    simp only [encodeByte, List.mem_cons, List.not_mem_nil, or_false] at hb
    rcases hb with rfl | rfl | rfl
    · exact Or.inr rfl
    · exact Or.inl (hexDigit_unreserved (by omega))
    · exact Or.inl (hexDigit_unreserved (by omega))

theorem not_mem_encode {c : Char} (h : isUnreserved c = false) (hc : c ≠ '%') (s : String) :
    c ∉ (encode s).toList := by
  intro hmem
  rcases unreserved_of_mem_encode hmem with hu | hu
  · exact Bool.false_ne_true (h.symm.trans hu)
  · exact hc hu

/-! ## Reading texts that were not encoded -/

theorem hasEscape_cons_of {c : Char} {rest : List Char} (h : HasEscape rest) : HasEscape (c :: rest) := by
  obtain ⟨a, b, ha, hb, hin⟩ := h
  exact ⟨a, b, ha, hb, hin.trans (List.suffix_cons c rest).isInfix⟩

/-- An escape begins with the first character or comes later. -/
theorem hasEscape_cons {c : Char} {rest : List Char} (h : HasEscape (c :: rest)) :
    (∃ a b tail, c = '%' ∧ rest = a :: b :: tail ∧ (hexDigit? a).isSome ∧ (hexDigit? b).isSome) ∨ HasEscape rest := by
  obtain ⟨a, b, ha, hb, hin⟩ := h
  rcases List.infix_cons_iff.1 hin with ⟨tail, ht⟩ | hlater
  · simp only [List.cons_append, List.nil_append, List.cons.injEq] at ht
    exact Or.inl ⟨a, b, tail, ht.1.symm, ht.2.symm, ha, hb⟩
  · exact Or.inr ⟨a, b, ha, hb, hlater⟩

theorem decodeBytes_of_not_hasEscape {cs : List Char} (h : ¬HasEscape cs) :
    decodeBytes cs = cs.flatMap String.utf8EncodeChar := by
  fun_induction decodeBytes cs with
  | case1 => rfl
  | case2 a b rest high low hlow hhigh ih =>
    exact absurd ⟨a, b, Option.isSome_of_eq_some hhigh, Option.isSome_of_eq_some hlow, ⟨[], rest, rfl⟩⟩ h
  | case3 a b rest hno ih =>
    rw [ih fun hrest => h (hasEscape_cons_of hrest)]
    exact (List.flatMap_cons ..).symm
  | case4 c rest hno ih => rw [ih fun hrest => h (hasEscape_cons_of hrest), List.flatMap_cons]

theorem utf8EncodeChar_length_pos (c : Char) : 0 < (String.utf8EncodeChar c).length :=
  List.length_pos_iff.2 String.utf8EncodeChar_ne_nil

/-- Three characters of an escape become one byte, and no character becomes less than one. -/
theorem length_decodeBytes (cs : List Char) :
    (decodeBytes cs).length ≤ (cs.flatMap String.utf8EncodeChar).length ∧
      (HasEscape cs → (decodeBytes cs).length < (cs.flatMap String.utf8EncodeChar).length) := by
  fun_induction decodeBytes cs with
  | case1 =>
    refine ⟨Nat.le_refl _, ?_⟩
    rintro ⟨a, b, -, -, hin⟩
    exact absurd (List.infix_nil.1 hin) (List.cons_ne_nil _ _)
  | case2 a b rest high low hlow hhigh ih =>
    have ha := utf8EncodeChar_length_pos a
    have hb := utf8EncodeChar_length_pos b
    have hle := ih.1
    have hlt : (UInt8.ofNat (16 * high + low) :: decodeBytes rest).length <
        (('%' :: a :: b :: rest).flatMap String.utf8EncodeChar).length := by
      simp only [List.flatMap_cons, List.length_append, List.length_cons]
      omega
    exact ⟨Nat.le_of_lt hlt, fun _ => hlt⟩
  | case3 a b rest hno ih =>
    rw [List.flatMap_cons, List.length_append, List.length_append]
    refine ⟨Nat.add_le_add_left ih.1 _, fun hescape => Nat.add_lt_add_left (ih.2 ?_) _⟩
    rcases hasEscape_cons hescape with ⟨a', b', tail, -, he, ha, hb⟩ | hrest
    · obtain ⟨rfl, rfl, rfl⟩ : a = a' ∧ b = b' ∧ rest = tail := by simpa using he
      obtain ⟨high, hhigh⟩ := Option.isSome_iff_exists.1 ha
      obtain ⟨low, hlow⟩ := Option.isSome_iff_exists.1 hb
      exact absurd hlow (hno high low hhigh)
    · exact hrest
  | case4 c rest hno ih =>
    rw [List.flatMap_cons, List.length_append, List.length_append]
    refine ⟨Nat.add_le_add_left ih.1 _, fun hescape => Nat.add_lt_add_left (ih.2 ?_) _⟩
    rcases hasEscape_cons hescape with ⟨a, b, tail, hc, he, -, -⟩ | hrest
    · exact absurd he (hno a b tail hc)
    · exact hrest

/-- **A text without escapes, and only such a text, is read as itself.** -/
theorem decode?_eq_self_iff (s : String) : decode? s = some s ↔ ¬HasEscape s.toList := by
  constructor
  · intro h hescape
    have hlt := (length_decodeBytes s.toList).2 hescape
    have hbytes : (decodeBytes s.toList).toByteArray = (s.toList.flatMap String.utf8EncodeChar).toByteArray := by
      obtain ⟨hvalid, hs⟩ := Option.dite_none_right_eq_some.1 h
      exact (congrArg String.toByteArray (Option.some.inj hs)).trans String.utf8Encode_toList.symm
    have hlength := congrArg ByteArray.size hbytes
    rw [List.size_toByteArray, List.size_toByteArray] at hlength
    omega
  · intro h
    rw [decode?, decodeBytes_of_not_hasEscape h, fromUTF8?_utf8Encode]

end LoopSurvey.Text.Percent
