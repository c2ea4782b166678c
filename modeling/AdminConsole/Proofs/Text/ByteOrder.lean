/-
# `Proofs.Text.ByteOrder` — the order of texts is that of their bytes

Tables keep their keys in the order of texts, which compares code points one after
the other; what is sent is sorted by the bytes of the keys.  The two orders are the
same (`utf8_lt_iff`).

The reason is the layout of the bytes of one character (`CharForm`).  The first byte
tells how many follow, and is larger the more there are; the digits of the code stand
in the bytes from the highest to the lowest.  So of two characters the one with the
smaller code has the smaller bytes, and they differ before either form ends, whatever
stands behind (`utf8EncodeChar_append_lt`).
-/
import AdminConsole.Text.Percent

namespace AdminConsole.Percent

theorem ofNat_cons_lt_iff {a b : Nat} (ha : a < 256) (hb : b < 256) {bs bs' : List UInt8} :
    UInt8.ofNat a :: bs < UInt8.ofNat b :: bs' ↔ a < b ∨ a = b ∧ bs < bs' := by
  rw [List.cons_lt_cons_iff, UInt8.lt_iff_toNat_lt, ← UInt8.toNat_inj,
    UInt8.toNat_ofNat_of_lt' ha, UInt8.toNat_ofNat_of_lt' hb]

/-! ## One character -/

/-- The UTF-8 forms of codes: a first byte that tells how many follow, and in each byte one digit of the
code to the base 64.  No code has a form that is longer than it needs. -/
inductive CharForm : Nat → List UInt8 → Prop
  | one {x : Nat} : x < 128 → CharForm x [UInt8.ofNat x]
  | two {x y : Nat} : 2 ≤ x → x < 32 → y < 64 →
      CharForm (64 * x + y) [UInt8.ofNat (x + 192), UInt8.ofNat (y + 128)]
  | three {x y z : Nat} : 32 ≤ 64 * x + y → x < 16 → y < 64 → z < 64 →
      CharForm (64 * (64 * x + y) + z)
        [UInt8.ofNat (x + 224), UInt8.ofNat (y + 128), UInt8.ofNat (z + 128)]
  | four {x y z w : Nat} : 16 ≤ 64 * x + y → x < 8 → y < 64 → z < 64 → w < 64 →
      CharForm (64 * (64 * (64 * x + y) + z) + w)
        [UInt8.ofNat (x + 240), UInt8.ofNat (y + 128), UInt8.ofNat (z + 128),
          UInt8.ofNat (w + 128)]

theorem charForm_utf8EncodeChar (c : Char) :
    CharForm c.val.toNat (String.utf8EncodeChar c) := by
  have hv : c.val.toNat < 1114112 := by
    rcases c.valid with h | h
    · exact Nat.lt_trans h (by decide)
    · exact h.2
  simp only [String.utf8EncodeChar]
  generalize c.val.toNat = v at hv ⊢
  -- the digits of the code, from the lowest to the highest
  have hlow : 64 * (v / 64) + v % 64 = v := Nat.div_add_mod v 64
  have hmid : 64 * (v / 4096) + v / 64 % 64 = v / 64 := by omega
  have hhigh : 64 * (v / 262144) + v / 4096 % 64 = v / 4096 := by omega
  split
  next h => exact .one (by omega)
  next =>
    split
    next =>
      have hfirst : v / 64 % 32 = v / 64 := Nat.mod_eq_of_lt (by omega)
      have hform : CharForm (64 * (v / 64) + v % 64) _ := .two (by omega) (by omega) (by omega)
      rw [hfirst]
      rwa [hlow] at hform
    next =>
      split
      next =>
        have hfirst : v / 4096 % 16 = v / 4096 := Nat.mod_eq_of_lt (by omega)
        have hform : CharForm (64 * (64 * (v / 4096) + v / 64 % 64) + v % 64) _ :=
          .three (by omega) (by omega) (by omega) (by omega)
        rw [hfirst]
        rwa [hmid, hlow] at hform
      next =>
        have hfirst : v / 262144 % 8 = v / 262144 := Nat.mod_eq_of_lt (by omega)
        have hform :
            CharForm (64 * (64 * (64 * (v / 262144) + v / 4096 % 64) + v / 64 % 64) + v % 64) _ :=
          .four (by omega) (by omega) (by omega) (by omega) (by omega)
        rw [hfirst]
        rwa [hhigh, hmid, hlow] at hform

/-- Forms are in the order of the codes, and none is the beginning of another. -/
theorem CharForm.append_lt {v w : Nat} {form form' : List UInt8} (hv : CharForm v form)
    (hw : CharForm w form') (h : v < w) (bs bs' : List UInt8) : form ++ bs < form' ++ bs' := by
  -- of two lengths the longer one has the larger first byte, and at one length the first digit that
  -- differs decides; the pairs with the longer form in front contradict the order of the codes
  cases hv <;> cases hw <;>
    simp (disch := omega) only [List.cons_append, ofNat_cons_lt_iff] <;>
    omega

theorem utf8EncodeChar_append_lt {c d : Char} (h : c < d) (bs bs' : List UInt8) :
    String.utf8EncodeChar c ++ bs < String.utf8EncodeChar d ++ bs' :=
  (charForm_utf8EncodeChar c).append_lt (charForm_utf8EncodeChar d) h bs bs'

/-! ## Texts -/

theorem utf8_cons (c : Char) (cs : List Char) :
    utf8 (c :: cs) = String.utf8EncodeChar c ++ utf8 cs :=
  List.flatMap_cons

theorem utf8_lt {cs ds : List Char} (h : cs < ds) : utf8 cs < utf8 ds := by
  induction h with
  | @nil d ds =>
      rw [utf8_cons]
      cases hform : String.utf8EncodeChar d with
      | nil => exact absurd hform String.utf8EncodeChar_ne_nil
      | cons b bs => exact List.nil_lt_cons b (bs ++ utf8 ds)
  | rel h =>
      rw [utf8_cons, utf8_cons]
      exact utf8EncodeChar_append_lt h _ _
  | cons _ ih =>
      rw [utf8_cons, utf8_cons]
      exact List.append_left_lt ih

/-- **Texts are in the order of their bytes.** -/
theorem utf8_lt_iff {s t : String} : utf8 s.toList < utf8 t.toList ↔ s < t := by
  constructor
  · intro h
    rcases Std.lt_trichotomy s t with hlt | rfl | hgt
    · exact hlt
    · exact absurd h (List.lt_irrefl _)
    · exact absurd h (List.lt_asymm (utf8_lt (String.lt_iff.mp hgt)))
  · exact fun h => utf8_lt (String.lt_iff.mp h)

end AdminConsole.Percent
