/-
# `Proofs.Text.Integer` — integers read back from their digits

The text of an integer within the bounds reads as that integer
(`readInteger_toString`), and whatever reads as an integer lies within the
bounds (`readInteger_bounds`).  Reading goes digit by digit and stops as soon as
the bound is passed, so both rest on the fact that the value never shrinks while
digits are read (`le_ofDigitChars`).
-/
import AdminConsole.Text.Integer
import AdminConsole.Text.Pieces

namespace AdminConsole.Text

/-! ## Digits -/

theorem isDigit_iff (c : Char) : c.isDigit = true ↔ '0' ≤ c ∧ c ≤ '9' := by
  rw [Char.isDigit_iff_toNat]
  exact Iff.rfl

theorem digitValue?_of_isDigit {c : Char} (h : c.isDigit = true) :
    digitValue? c = some (c.toNat - '0'.toNat) :=
  if_pos ((isDigit_iff c).mp h)

theorem le_ofDigitChars (cs : List Char) (v : Nat) : v ≤ Nat.ofDigitChars 10 cs v := by
  induction cs generalizing v with
  | nil => exact Nat.le_of_eq Nat.ofDigitChars_nil.symm
  | cons c cs ih =>
      rw [Nat.ofDigitChars_cons]
      have := ih (10 * v + (c.toNat - '0'.toNat))
      omega

theorem readUp_digits {hi : Int} {cs : List Char} (digits : ∀ c ∈ cs, c.isDigit = true) {v : Nat}
    (h : (Nat.ofDigitChars 10 cs v : Int) ≤ hi) :
    readUp hi v cs = .ok (Nat.ofDigitChars 10 cs v : Int) := by
  induction cs generalizing v with
  | nil => rw [Nat.ofDigitChars_nil]; rfl
  | cons c cs ih =>
      obtain ⟨hc, hcs⟩ := List.forall_mem_cons.mp digits
      rw [Nat.ofDigitChars_cons] at h ⊢
      have hnext : (v : Int) * 10 + (c.toNat - '0'.toNat : Nat)
          = (10 * v + (c.toNat - '0'.toNat) : Nat) := by omega
      have hle := le_ofDigitChars cs (10 * v + (c.toNat - '0'.toNat))
      simp only [readUp]
      simp only [digitValue?_of_isDigit hc, hnext]
      rw [if_neg (by omega)]
      exact ih hcs h

theorem readDown_digits {lo : Int} {cs : List Char} (digits : ∀ c ∈ cs, c.isDigit = true) {v : Nat}
    (h : lo ≤ -(Nat.ofDigitChars 10 cs v : Int)) :
    readDown lo (-v) cs = .ok (-(Nat.ofDigitChars 10 cs v : Int)) := by
  induction cs generalizing v with
  | nil => rw [Nat.ofDigitChars_nil]; rfl
  | cons c cs ih =>
      obtain ⟨hc, hcs⟩ := List.forall_mem_cons.mp digits
      rw [Nat.ofDigitChars_cons] at h ⊢
      have hnext : -(v : Int) * 10 - (c.toNat - '0'.toNat : Nat)
          = -((10 * v + (c.toNat - '0'.toNat) : Nat) : Int) := by omega
      have hle := le_ofDigitChars cs (10 * v + (c.toNat - '0'.toNat))
      simp only [readDown]
      simp only [digitValue?_of_isDigit hc, hnext]
      rw [if_neg (by omega)]
      exact ih hcs h

/-! ## Within the bounds -/

theorem readUp_bounds {hi n : Int} {cs : List Char} {v : Int} (hv : v ≤ hi)
    (h : readUp hi v cs = .ok n) : n ≤ hi ∧ (0 ≤ v → 0 ≤ n) := by
  induction cs generalizing v with
  | nil =>
      cases h
      exact ⟨hv, id⟩
  | cons c cs ih =>
      simp only [readUp] at h
      cases hd : digitValue? c with
      | none => simp [hd] at h
      | some d =>
          simp only [hd] at h
          split at h
          · cases h
          next hle =>
              have := ih (by omega) h
              omega

theorem readDown_bounds {lo n : Int} {cs : List Char} {v : Int} (hv : lo ≤ v)
    (h : readDown lo v cs = .ok n) : lo ≤ n ∧ (v ≤ 0 → n ≤ 0) := by
  induction cs generalizing v with
  | nil =>
      cases h
      exact ⟨hv, id⟩
  | cons c cs ih =>
      simp only [readDown] at h
      cases hd : digitValue? c with
      | none => simp [hd] at h
      | some d =>
          simp only [hd] at h
          split at h
          · cases h
          next hle =>
              have := ih (by omega) h
              omega

theorem readInteger_bounds {lo hi n : Int} (hlo : lo ≤ 0) (hhi : 0 ≤ hi) {cs : List Char}
    (h : readInteger lo hi cs = .ok n) : lo ≤ n ∧ n ≤ hi := by
  have up : ∀ {r}, readUp hi 0 r = .ok n → lo ≤ n ∧ n ≤ hi := by
    intro r hr
    have := readUp_bounds hhi hr
    omega
  simp only [readInteger] at h
  split at h
  · cases h
  · cases h
  · cases h
  · exact up h
  · split at h
    · have := readDown_bounds hlo h
      omega
    · cases h
  · exact up h

/-! ## Round trip -/

theorem toList_toString_ofNat (n : Nat) : (toString (n : Int)).toList = Nat.toDigits 10 n := by
  rw [Int.toString_eq_repr, Int.repr_eq_if, if_pos (Int.natCast_nonneg n), Int.toNat_natCast,
    Nat.toList_repr]

theorem toList_toString_neg {n : Int} (h : n < 0) :
    (toString n).toList = '-' :: Nat.toDigits 10 (-n).toNat := by
  rw [Int.toString_eq_repr, Int.repr_eq_if, if_neg (by omega), String.toList_append,
    Nat.toList_repr]
  rfl

theorem isDigit_toDigits (n : Nat) : ∀ c ∈ Nat.toDigits 10 n, c.isDigit = true :=
  fun _ hc => Nat.isDigit_of_mem_toDigits (by decide) (by decide) hc

theorem readInteger_of_isDigit {lo hi : Int} {cs : List Char} (hne : cs ≠ [])
    (digits : ∀ c ∈ cs, c.isDigit = true) : readInteger lo hi cs = readUp hi 0 cs := by
  cases cs with
  | nil => exact absurd rfl hne
  | cons c cs =>
      have hc : c.isDigit = true := digits c List.mem_cons_self
      have hplus : c ≠ '+' := fun he => absurd (he ▸ hc) (by decide)
      have hminus : c ≠ '-' := fun he => absurd (he ▸ hc) (by decide)
      simp only [readInteger]
      split <;> simp_all

/-- The text of an integer reads as that integer. -/
theorem readInteger_toString {lo hi n : Int} (h0 : lo ≤ 0) (hlo : lo ≤ n) (hhi : n ≤ hi) :
    readInteger lo hi (toString n).toList = .ok n := by
  by_cases hn : 0 ≤ n
  · obtain ⟨k, rfl⟩ := Int.eq_ofNat_of_zero_le hn
    rw [toList_toString_ofNat, readInteger_of_isDigit Nat.toDigits_ne_nil (isDigit_toDigits k)]
    have hk : (Nat.ofDigitChars 10 (Nat.toDigits 10 k) 0 : Int) ≤ hi := by
      rw [Nat.ofDigitChars_ten_toDigits]
      exact hhi
    have := readUp_digits (isDigit_toDigits k) hk
    rwa [Nat.ofDigitChars_ten_toDigits] at this
  · have hneg : n < 0 := by omega
    have hk : lo ≤ -(Nat.ofDigitChars 10 (Nat.toDigits 10 (-n).toNat) 0 : Int) := by
      rw [Nat.ofDigitChars_ten_toDigits]
      omega
    have hread := readDown_digits (isDigit_toDigits (-n).toNat) hk
    rw [Nat.ofDigitChars_ten_toDigits] at hread
    rw [toList_toString_neg hneg]
    have hne : Nat.toDigits 10 (-n).toNat ≠ [] := Nat.toDigits_ne_nil
    obtain ⟨c, cs, hcs⟩ := List.exists_cons_of_ne_nil hne
    rw [hcs] at hread ⊢
    show (if lo < 0 then readDown lo 0 (c :: cs) else _) = _
    rw [if_pos (by omega)]
    have hback : (-((-n).toNat : Int)) = n := by omega
    rw [hback] at hread
    exact hread

theorem toString_injective {n k : Int} (h : toString n = toString k) : n = k := by
  have hn : readInteger (-(n.natAbs + k.natAbs)) (n.natAbs + k.natAbs) (toString n).toList = .ok n :=
    readInteger_toString (by omega) (by omega) (by omega)
  have hk : readInteger (-(n.natAbs + k.natAbs)) (n.natAbs + k.natAbs) (toString k).toList = .ok k :=
    readInteger_toString (by omega) (by omega) (by omega)
  rw [h, hk] at hn
  cases hn
  rfl

/-! ## Signed integers of 64 bits -/

/-- The integers that 64 bits with a sign hold. -/
def IsInt64 (n : Int) : Prop := minInt64 ≤ n ∧ n ≤ maxInt64

instance (n : Int) : Decidable (IsInt64 n) := inferInstanceAs (Decidable (_ ∧ _))

theorem int64?_toString {n : Int} (h : IsInt64 n) : int64? (toString n).toList = some n := by
  simp only [int64?]
  rw [readInteger_toString (by decide) h.1 h.2]
  rfl

theorem isInt64_of_int64? {cs : List Char} {n : Int} (h : int64? cs = some n) : IsInt64 n := by
  simp only [int64?] at h
  cases hr : readInteger minInt64 maxInt64 cs with
  | error e => simp [hr, Except.toOption] at h
  | ok k =>
      simp only [hr, Except.toOption, Option.some.injEq] at h
      subst h
      exact readInteger_bounds (by decide) (by decide) hr

/-! ## Blanks -/

theorem isBlank_of_isDigit {c : Char} (h : c.isDigit = true) : isBlank c = false := by
  have hd := Char.isDigit_iff_toNat.mp h
  have h0 : '0'.toNat = 48 := rfl
  have h9 : '9'.toNat = 57 := rfl
  simp [isBlank]
  omega

theorem dropWhile_eq_self {p : Char → Bool} {cs : List Char} (h : ∀ c ∈ cs, p c = false) :
    cs.dropWhile p = cs := by
  cases cs with
  | nil => rfl
  | cons c cs => exact List.dropWhile_cons_of_neg (by simp [h c List.mem_cons_self])

theorem trimBlanks_eq_self {cs : List Char} (h : ∀ c ∈ cs, isBlank c = false) :
    trimBlanks cs = cs := by
  simp only [trimBlanks, trimBy, dropEnd]
  rw [dropWhile_eq_self h, dropWhile_eq_self fun c hc => h c (List.mem_reverse.mp hc),
    List.reverse_reverse]

theorem mem_toString {n : Int} {c : Char} (h : c ∈ (toString n).toList) :
    c = '-' ∨ c.isDigit = true := by
  by_cases hn : 0 ≤ n
  · obtain ⟨k, rfl⟩ := Int.eq_ofNat_of_zero_le hn
    rw [toList_toString_ofNat] at h
    exact .inr (isDigit_toDigits k c h)
  · rw [toList_toString_neg (by omega)] at h
    rcases List.mem_cons.mp h with rfl | h
    · exact .inl rfl
    · exact .inr (isDigit_toDigits _ c h)

theorem trimBlanks_toString (n : Int) : trimBlanks (toString n).toList = (toString n).toList := by
  apply trimBlanks_eq_self
  intro c hc
  rcases mem_toString hc with rfl | hd
  · decide
  · exact isBlank_of_isDigit hd

end AdminConsole.Text
