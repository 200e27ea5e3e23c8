import NestedCss.Proofs.Decoding
/-!
# Decoded text is UTF-8

A text is well-formed if it is the UTF-8 form of some list of characters (`Utf8.IsWellFormed`).

* `Utf8.isValid_iff`: the check of bytes that nothing announces accepts the well-formed texts and no
  others;
* `Utf8.IsWellFormed.dropWhile`: taking ASCII bytes off the front keeps a text well-formed, since
  such a byte is a character of its own;
* `MarkedEncoding.exists_decode`: where a mark was found, the decoder of its encoding has an answer,
  however malformed the bytes behind the mark are;
* `isWellFormed_of_decodeSource`: whatever is decoded is well-formed.

The last statement is about `decodeSourceWith` with any reader for the encodings that a label names,
so it does not depend on their tables.
-/
namespace NestedCss

/-! ### Well-formed texts -/

namespace Utf8

/-- Whether a text is the UTF-8 form of some characters. -/
def IsWellFormed (t : Text) : Prop := ∃ s : List Char, t = encode s

theorem isWellFormed_of_all_scalar (t : Text) :
    (∀ s ∈ symbols t, ∃ c, s = .scalar c) → IsWellFormed t := by
  induction t using symbols_induct with
  | nil => exact fun _ => ⟨[], rfl⟩
  | cons s t _ ih =>
    intro hall
    obtain ⟨⟨c, rfl⟩, hrest⟩ := List.forall_mem_cons.mp hall
    obtain ⟨cs, hcs⟩ := ih hrest
    refine ⟨c :: cs, ?_⟩
    rw [hcs]
    rfl

theorem isValid_iff {t : Text} : isValid t = true ↔ IsWellFormed t := by
  constructor
  · intro h
    refine isWellFormed_of_all_scalar t fun s hs => ?_
    have hscalar := List.all_eq_true.mp h s hs
    cases s with
    | scalar c => exact ⟨c, rfl⟩
    | stray b => cases hscalar
  · rintro ⟨s, rfl⟩
    exact isValid_encode s

/-- An ASCII byte at the front is a character of its own. -/
theorem IsWellFormed.of_cons_ascii {b : UInt8} {t : Text} (hb : b < 0x80)
    (h : IsWellFormed (b :: t)) : IsWellFormed t := by
  obtain ⟨s, hs⟩ := h
  cases s with
  | nil => cases hs
  | cons c s =>
    -- the front is read once as the byte and once as the first character
    have hbyte := first?_one (UInt8.lt_iff_toNat_lt.mp hb) t
    have hchar := first?_encodeChar c (encode s)
    have hcons : b :: t = encodeChar c ++ encode s := hs
    rw [← hcons, hbyte] at hchar
    obtain ⟨-, hlength⟩ := Prod.mk.inj (Option.some.inj hchar)
    obtain ⟨d, hd⟩ := List.length_eq_one_iff.mp hlength.symm
    rw [hd] at hcons
    exact ⟨s, (List.cons.inj hcons).2⟩

theorem IsWellFormed.dropWhile {p : UInt8 → Bool} (hp : ∀ b, p b = true → b < 0x80) {t : Text}
    (h : IsWellFormed t) : IsWellFormed (t.dropWhile p) := by
  induction t with
  | nil => exact h
  | cons b t ih =>
    rw [List.dropWhile_cons]
    split
    · rename_i hb
      exact ih (h.of_cons_ascii (hp b hb))
    · exact h

end Utf8

/-! ### Marks -/

namespace MarkedEncoding

theorem mark_isPrefix_of_detect? {t : Text} {e : MarkedEncoding} (h : detect? t = some e) :
    e.mark <+: t := by
  have hstarts := List.find?_some h
  exact List.isPrefixOf_iff_prefix.mp hstarts

/-- The decoder that a mark calls for has an answer, whatever stands behind the mark. -/
theorem exists_decode {t : Text} {e : MarkedEncoding} (h : detect? t = some e) :
    ∃ s, e.decode t = .ok s := by
  obtain ⟨r, rfl⟩ := mark_isPrefix_of_detect? h
  match e with
  | .utf8 => exact ⟨_, rfl⟩
  | .utf16 .big => exact ⟨_, rfl⟩
  | .utf16 .little => exact ⟨_, rfl⟩
  | .utf32 .big => exact ⟨_, rfl⟩
  | .utf32 .little => exact ⟨_, rfl⟩

end MarkedEncoding

/-! ### Sources -/

variable {read : Encoding.Charset → Text → Except Encoding.Unreadable (List Char)} {t text : Text}

theorem isWellFormed_of_plain
    (h : (if Utf8.isValid t then .ok t else .error .notUtf8 : Except DecodeError Text) = .ok text) :
    Utf8.IsWellFormed text := by
  split at h
  · rename_i hvalid
    cases h
    exact Utf8.isValid_iff.mp hvalid
  · cases h

theorem isWellFormed_of_decodeSourceWith (h : decodeSourceWith read t = .ok text) :
    Utf8.IsWellFormed text := by
  unfold decodeSourceWith at h
  dsimp only at h
  split at h
  · -- one of the five marks: the decoders give characters
    rename_i e hdetect
    obtain ⟨s, hs⟩ := MarkedEncoding.exists_decode hdetect
    rw [hs] at h
    cases h
    exact ⟨s, rfl⟩
  · split at h
    · exact isWellFormed_of_plain h
    · split at h
      · cases h
      · split at h
        · exact isWellFormed_of_plain h
        · split at h
          · cases h
          -- the line ends behind the statement are ASCII
          cases h
          refine Utf8.IsWellFormed.dropWhile (fun b hb => ?_) ⟨_, rfl⟩
          rcases Bool.or_eq_true_iff.mp hb with hb | hb <;> rw [eq_of_beq hb] <;> decide

/-- What is decoded is UTF-8, also if other readers stand in for the encodings that labels name. A
source that starts with a mark is always decoded. -/
theorem isWellFormed_of_decodeSource :
    (∀ foreign t text, decodeSource foreign t = .ok text →
      Utf8.IsWellFormed text ∧ Utf8.isValid text = true) ∧
    (∀ read t text, decodeSourceWith read t = .ok text → Utf8.IsWellFormed text) ∧
    ∀ foreign t e, MarkedEncoding.detect? t = some e →
      ∃ text, decodeSource foreign t = .ok text := by
  refine ⟨fun foreign t text h => ?_, fun read t text h => isWellFormed_of_decodeSourceWith h,
    fun foreign t e hdetect => ?_⟩
  · have hform := isWellFormed_of_decodeSourceWith h
    exact ⟨hform, Utf8.isValid_iff.mpr hform⟩
  · obtain ⟨s, hs⟩ := MarkedEncoding.exists_decode hdetect
    refine ⟨Utf8.encode s, ?_⟩
    rw [decodeSource, decodeSourceWith, hdetect]
    show (e.decode t).map Utf8.encode = .ok (Utf8.encode s)
    rw [hs]
    rfl

/-- A unit of UTF-32 that is no character, and a byte left over behind it. -/
theorem isWellFormed_of_decodeSource_beyond :
    let t : Text := [0x00, 0x00, 0xFE, 0xFF, 0x00, 0x11, 0x00, 0x00, 0x61]
    let text : Text := [0xEF, 0xBF, 0xBD, 0xEF, 0xBF, 0xBD]
    MarkedEncoding.detect? t = some (.utf32 .big) ∧
      decodeSource Encoding.DoubleByte.readShared t = .ok text ∧
      Utf8.IsWellFormed text := by
  intro t text
  have hdetect : MarkedEncoding.detect? t = some (.utf32 .big) := by decide
  have hdecode : decodeSource Encoding.DoubleByte.readShared t = .ok text := by rfl
  exact ⟨hdetect, hdecode, (isWellFormed_of_decodeSource.1 _ t text hdecode).1⟩

end NestedCss
