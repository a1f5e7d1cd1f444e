/-
Texts of numbers — what reading makes of a number that was written as a text.

An integer is written with its sign and its decimal digits, and both ways of reading take the
text apart into the same digits: the integer reading gives it back, the real one makes the
number nearest to it.  The text of a real has a point, an exponent or letters somewhere, at
which the integer reading stops short, so that it never takes a real for an integer.
-/
import MeshlessGas.Numeral.Reading
import MeshlessGas.Number

namespace MeshlessGas

/-! ## Digits -/

theorem toNat_of_isDigit {c : Char} (h : c.isDigit = true) : 48 ≤ c.toNat ∧ c.toNat ≤ 57 := by
  simpa [Char.isDigit, UInt32.le_iff_toNat_le] using h

theorem digitValue?_of_isDigit {c : Char} (h : c.isDigit = true) :
    digitValue? c = some (c.toNat - '0'.toNat) := by
  have hfirst : (digitZeros.find? fun first => first ≤ c.toNat ∧ c.toNat ≤ first + 9)
      = some 0x30 :=
    List.find?_cons_of_pos (decide_eq_true (toNat_of_isDigit h))
  rw [digitValue?, hfirst]
  rfl

theorem isMargin_of_isDigit {c : Char} (h : c.isDigit = true) : isMargin c = false := by
  have hbounds := toNat_of_isDigit h
  simp [isMargin, isBlank, inRanges, blankRanges]
  omega

theorem toLower_of_isDigit {c : Char} (h : c.isDigit = true) : c.toLower = c := by
  have hcapital : ¬ (c.val ≥ 'A'.val ∧ c.val ≤ 'Z'.val) := by
    rintro ⟨hlow, -⟩
    have hlow : 65 ≤ c.toNat := UInt32.le_iff_toNat_le.mp hlow
    have hbounds := toNat_of_isDigit h
    omega
  exact dif_neg hcapital

theorem digitTail_of_digits :
    ∀ {cs : List Char}, (∀ c ∈ cs, c.isDigit = true) →
      digitTail cs = (cs.map fun c => c.toNat - '0'.toNat, [])
  | [], _ => rfl
  | c :: cs, h => by
    obtain ⟨hc, hcs⟩ := List.forall_mem_cons.mp h
    unfold digitTail
    simp only [digitValue?_of_isDigit hc, digitTail_of_digits hcs, List.map_cons]

theorem digitRun_of_digits {cs : List Char} (h : ∀ c ∈ cs, c.isDigit = true) :
    digitRun cs = (cs.map fun c => c.toNat - '0'.toNat, []) := by
  cases cs with
  | nil => rfl
  | cons c cs =>
    obtain ⟨hc, hcs⟩ := List.forall_mem_cons.mp h
    simp only [digitRun, digitValue?_of_isDigit hc, digitTail_of_digits hcs, List.map_cons]

theorem numberOfDigits_map (cs : List Char) :
    numberOfDigits (cs.map fun c => c.toNat - '0'.toNat) = Nat.ofDigitChars 10 cs 0 := by
  rw [numberOfDigits, List.foldl_map, Nat.ofDigitChars_eq_foldl]

theorem isDigit_toDigits {n : Nat} : ∀ c ∈ Nat.toDigits 10 n, c.isDigit = true :=
  fun _ => Nat.isDigit_of_mem_toDigits (by decide) (by decide)

theorem digitRun_toDigits (n : Nat) :
    ∃ ds, digitRun (Nat.toDigits 10 n) = (ds, []) ∧ ds ≠ [] ∧ numberOfDigits ds = n ∧
      ds.length = decimalLength n := by
  refine ⟨_, digitRun_of_digits isDigit_toDigits, ?_, ?_, List.length_map _⟩
  · exact fun h => Nat.toDigits_ne_nil (List.map_eq_nil_iff.mp h)
  · rw [numberOfDigits_map, Nat.ofDigitChars_ten_toDigits]

/-! ## Signs and margins -/

theorem trimMargins_of_forall {cs : List Char} (h : ∀ c ∈ cs, isMargin c = false) :
    trimMargins cs = cs := by
  have hkeep : ∀ {ds : List Char}, (∀ c ∈ ds, isMargin c = false) → ds.dropWhile isMargin = ds := by
    intro ds hds
    cases ds with
    | nil => rfl
    | cons d ds => rw [List.dropWhile_cons_of_neg (by simp [hds d List.mem_cons_self])]
  rw [trimMargins, hkeep h, hkeep fun c hc => h c (List.mem_reverse.mp hc), List.reverse_reverse]

theorem eq_minus_of_mem_signText {negative : Bool} {c : Char} (h : c ∈ signText negative) :
    c = '-' := by
  cases negative with
  | false => cases h
  | true => exact List.mem_singleton.mp h

theorem signOf_signText (negative : Bool) {cs : List Char} (h : ∀ c ∈ cs, c.isDigit = true) :
    signOf (signText negative ++ cs) = (negative, cs) := by
  cases negative with
  | true => rfl
  | false =>
    cases cs with
    | nil => rfl
    | cons c cs =>
      have hc := h c List.mem_cons_self
      show signOf (c :: cs) = (false, c :: cs)
      unfold signOf
      split
      next heq =>
        obtain rfl := List.head_eq_of_cons_eq heq
        cases hc
      next heq =>
        obtain rfl := List.head_eq_of_cons_eq heq
        cases hc
      next => rfl

/-! ## Texts of integers -/

theorem toList_toString (n : Int) :
    (toString n).toList = signText (decide (n < 0)) ++ Nat.toDigits 10 n.natAbs := by
  cases n with
  | ofNat n =>
    have htext : toString (Int.ofNat n) = toString n := rfl
    have hsign : decide (Int.ofNat n < 0) = false := decide_eq_false (by simp)
    rw [htext, hsign, Nat.toString_eq_ofList_toDigits, String.toList_ofList]
    rfl
  | negSucc n =>
    have htext : toString (Int.negSucc n) = "-" ++ toString (n + 1) := rfl
    have hsign : decide (Int.negSucc n < 0) = true := decide_eq_true (Int.negSucc_lt_zero n)
    rw [htext, hsign, String.toList_append, Nat.toString_eq_ofList_toDigits]
    simp only [String.toList_ofList]
    rfl

theorem ne_null_of_mem_toString (n : Int) : ∀ c ∈ (toString n).toList, c ≠ '\x00' := by
  rw [toList_toString]
  refine List.forall_mem_append.mpr ⟨?_, ?_⟩
  · intro c hc
    rw [eq_minus_of_mem_signText hc]
    decide
  · rintro _ hmem rfl
    exact absurd (isDigit_toDigits _ hmem) (by decide)

theorem signOf_toString (n : Int) :
    signOf (trimMargins (toString n).toList)
      = (decide (n < 0), Nat.toDigits 10 n.natAbs) := by
  have hmargin : ∀ c ∈ (toString n).toList, isMargin c = false := by
    rw [toList_toString]
    refine List.forall_mem_append.mpr ⟨?_, fun c hc => isMargin_of_isDigit (isDigit_toDigits c hc)⟩
    intro c hc
    rw [eq_minus_of_mem_signText hc]
    decide
  rw [trimMargins_of_forall hmargin, toList_toString, signOf_signText _ isDigit_toDigits]

theorem signed_natAbs (n : Int) :
    (if decide (n < 0) = true then -(n.natAbs : Int) else n.natAbs) = n := by
  split
  next hneg =>
    have := of_decide_eq_true hneg
    omega
  next hneg =>
    have := of_decide_eq_false (Bool.eq_false_iff.mpr hneg)
    omega

theorem readInt?_toString {n : Int} (h : decimalLength n.natAbs ≤ maxIntegerDigits) :
    readInt? (toString n) = some n := by
  obtain ⟨ds, hrun, hne, hnumber, hlength⟩ := digitRun_toDigits n.natAbs
  cases ds with
  | nil => exact absurd rfl hne
  | cons d ds =>
    rw [← hlength] at h
    simp only [readInt?, signOf_toString, hrun, h, if_true, hnumber, signed_natAbs]

theorem readReal?_toString (n : Int) :
    readReal? (toString n) = some (.decimal (decide (n < 0)) ⟨n.natAbs, 0⟩) := by
  obtain ⟨ds, hrun, hne, hnumber, -⟩ := digitRun_toDigits n.natAbs
  have hword : ∀ w : String, 'n' ∈ w.toList →
      String.ofList ((Nat.toDigits 10 n.natAbs).map Char.toLower) ≠ w := by
    rintro _ hletter rfl
    rw [String.toList_ofList] at hletter
    obtain ⟨c, hc, hlower⟩ := List.mem_map.mp hletter
    have hdigit := isDigit_toDigits c hc
    rw [toLower_of_isDigit hdigit] at hlower
    rw [hlower] at hdigit
    cases hdigit
  have hdecimal : readDecimal? (Nat.toDigits 10 n.natAbs) = some ⟨n.natAbs, 0⟩ := by
    have hsome : ¬ (ds.isEmpty = true ∧ ([] : List Nat).isEmpty = true) :=
      fun h => hne (List.isEmpty_iff.mp h.1)
    simp only [readDecimal?, hrun, hsome, if_false, readExponent?, List.append_nil, hnumber]
    rfl
  simp only [readReal?, signOf_toString, hword "inf" (by decide), hword "infinity" (by decide),
    hword "nan" (by decide), or_self, if_false, hdecimal, Option.map_some]

/-! ## Texts that are no integers -/

theorem digitTail_eq_nil {cs : List Char} {ds : List Nat} (h : digitTail cs = (ds, [])) :
    ∀ c ∈ cs, (digitValue? c).isSome = true ∨ c = '_' := by
  induction cs using digitTail.induct generalizing ds with
  | case1 => exact nofun
  | case2 c cs d hd inner rest htail ih =>
    unfold digitTail at h
    simp only [hd, htail, Prod.mk.injEq] at h
    obtain ⟨-, rfl⟩ := h
    exact List.forall_mem_cons.mpr ⟨.inl (by rw [hd]; rfl), ih htail⟩
  | case3 c cs d hd inner rest htail hscore ih =>
    unfold digitTail at h
    simp only [hscore, hd, htail, Prod.mk.injEq] at h
    obtain ⟨-, rfl⟩ := h
    exact List.forall_mem_cons.mpr
      ⟨.inr rfl, List.forall_mem_cons.mpr ⟨.inl (by rw [hd]; rfl), ih htail⟩⟩
  | case4 c cs hd hscore =>
    unfold digitTail at h
    simp only [hscore, hd] at h
    cases h
  | case5 c cs hd hother =>
    unfold digitTail at h
    simp only [hd] at h
    cases h

theorem digitRun_eq_nil {cs : List Char} {ds : List Nat} (h : digitRun cs = (ds, [])) :
    ∀ c ∈ cs, (digitValue? c).isSome = true ∨ c = '_' := by
  cases cs with
  | nil => exact nofun
  | cons c cs =>
    cases hd : digitValue? c with
    | none =>
      simp only [digitRun, hd] at h
      cases h
    | some d =>
      simp only [digitRun, hd] at h
      have hrest : (digitTail cs).2 = [] := congrArg Prod.snd h
      have htail : digitTail cs = ((digitTail cs).1, []) := Prod.ext rfl hrest
      exact List.forall_mem_cons.mpr ⟨.inl (by rw [hd]; rfl), digitTail_eq_nil htail⟩

theorem mem_dropWhile {p : Char → Bool} {c : Char} (hc : p c = false) :
    ∀ {cs : List Char}, c ∈ cs → c ∈ cs.dropWhile p
  | [], hmem => hmem
  | d :: cs, hmem => by
    rw [List.dropWhile_cons]
    split
    next hd =>
      have htail : c ∈ cs := by
        rcases List.mem_cons.mp hmem with rfl | htail
        · rw [hc] at hd
          cases hd
        · exact htail
      exact mem_dropWhile hc htail
    next => exact hmem

theorem mem_signOf {c : Char} {cs : List Char} (hmem : c ∈ cs) (hminus : c ≠ '-')
    (hplus : c ≠ '+') : c ∈ (signOf cs).2 := by
  unfold signOf
  split
  next => exact (List.mem_cons.mp hmem).resolve_left hminus
  next => exact (List.mem_cons.mp hmem).resolve_left hplus
  next => exact hmem

/-- A letter or a point in a text that is no part of an integer. -/
structure IsForeign (c : Char) : Prop where
  noDigit : digitValue? c = none
  noMargin : isMargin c = false
  noMark : c ∉ ['_', '-', '+']

instance (c : Char) : Decidable (IsForeign c) :=
  decidable_of_iff (digitValue? c = none ∧ isMargin c = false ∧ c ∉ ['_', '-', '+'])
    ⟨fun ⟨hdigit, hmargin, hmark⟩ => ⟨hdigit, hmargin, hmark⟩,
      fun ⟨hdigit, hmargin, hmark⟩ => ⟨hdigit, hmargin, hmark⟩⟩

/-- No integer is read from a text with a foreign character in it. -/
theorem readInt?_eq_none {s : String} {c : Char} (hmem : c ∈ s.toList) (hc : IsForeign c) :
    readInt? s = none := by
  obtain ⟨hscore, hminus, hplus⟩ : c ≠ '_' ∧ c ≠ '-' ∧ c ≠ '+' := by
    simpa using hc.noMark
  have htrimmed : c ∈ trimMargins s.toList := by
    refine List.mem_reverse.mpr (mem_dropWhile hc.noMargin (List.mem_reverse.mpr ?_))
    exact mem_dropWhile hc.noMargin hmem
  have hsigned : c ∈ (signOf (trimMargins s.toList)).2 := mem_signOf htrimmed hminus hplus
  have hrest : ∀ ds, digitRun (signOf (trimMargins s.toList)).2 ≠ (ds, []) := by
    intro ds hrun
    rcases digitRun_eq_nil hrun c hsigned with hdigit | hunderscore
    · rw [hc.noDigit] at hdigit
      cases hdigit
    · exact hscore hunderscore
  simp only [readInt?]
  split
  next => rfl
  next ds _ hrun => exact absurd hrun (hrest ds)
  next => rfl

/-! ## Texts of reals -/

/-- The characters of which texts of reals are made. -/
def IsRealCharacter (c : Char) : Prop :=
  c.isDigit = true ∨ c ∈ ['.', 'e', '+', '-', 'n', 'a', 'i', 'f']

instance (c : Char) : Decidable (IsRealCharacter c) := inferInstanceAs (Decidable (_ ∨ _))

theorem isRealCharacter_of_all {cs : List Char}
    (h : (cs.all fun c => decide (IsRealCharacter c)) = true) : ∀ c ∈ cs, IsRealCharacter c :=
  fun c hc => of_decide_eq_true (List.all_eq_true.mp h c hc)

theorem isRealCharacter_of_mem_toDigits {n : Nat} {c : Char} (h : c ∈ Nat.toDigits 10 n) :
    IsRealCharacter c :=
  .inl (isDigit_toDigits c h)

theorem isRealCharacter_of_mem_paddedDigits {width n : Nat} {c : Char}
    (h : c ∈ paddedDigits width n) : IsRealCharacter c := by
  rcases List.mem_append.mp h with hzero | hdigit
  · rw [(List.mem_replicate.mp hzero).2]
    exact .inl rfl
  · exact isRealCharacter_of_mem_toDigits hdigit

theorem isRealCharacter_of_mem_withPoint {places : Nat} {ds : List Char}
    (hds : ∀ c ∈ ds, IsRealCharacter c) {c : Char} (h : c ∈ withPoint places ds) :
    IsRealCharacter c := by
  unfold withPoint at h
  split at h
  next => exact hds c h
  next =>
    rcases List.mem_append.mp h with hfirst | hrest
    · exact hds c (List.mem_of_mem_take hfirst)
    · rcases List.mem_cons.mp hrest with rfl | hlast
      · exact .inr (by decide)
      · exact hds c (List.mem_of_mem_drop hlast)

theorem isRealCharacter_of_mem_signText {negative : Bool} {c : Char} (h : c ∈ signText negative) :
    IsRealCharacter c := by
  rw [eq_minus_of_mem_signText h]
  exact .inr (by decide)

theorem isRealCharacter_of_mem_exponentText {e : Int} {c : Char} (h : c ∈ exponentText e) :
    IsRealCharacter c := by
  unfold exponentText at h
  rcases List.mem_cons.mp h with rfl | h
  · exact .inr (by decide)
  · rcases List.mem_cons.mp h with rfl | h
    · split
      · exact .inr (by decide)
      · exact .inr (by decide)
    · exact isRealCharacter_of_mem_paddedDigits h

namespace Magnitude

theorem isRealCharacter_of_mem_positional {d : Decimal} {c : Char} (h : c ∈ positional d) :
    IsRealCharacter c := by
  simp only [positional] at h
  split at h
  next =>
    rcases List.mem_append.mp h with hdigit | hzero
    · exact isRealCharacter_of_mem_toDigits hdigit
    · rw [(List.mem_replicate.mp hzero).2]
      exact .inl rfl
  next =>
    exact isRealCharacter_of_mem_withPoint (fun _ => isRealCharacter_of_mem_paddedDigits) h

theorem isRealCharacter_of_mem_exponential {d : Decimal} {c : Char} (h : c ∈ exponential d) :
    IsRealCharacter c := by
  rcases List.mem_append.mp h with hdigits | hexponent
  · exact isRealCharacter_of_mem_withPoint (fun _ => isRealCharacter_of_mem_toDigits) hdigits
  · exact isRealCharacter_of_mem_exponentText hexponent

end Magnitude

namespace BinaryValue

/-- Digits that have neither a point nor an exponent are marked by a point behind them. -/
theorem marked {negative : Bool} {text : List Char} (h : ∀ c ∈ text, IsRealCharacter c) :
    (∀ c ∈ signText negative ++ text ++ (if text.any (fun c => c = '.' ∨ c = 'e') then []
        else ['.', '0']), IsRealCharacter c) ∧
      ∃ c ∈ signText negative ++ text ++ (if text.any (fun c => c = '.' ∨ c = 'e') then []
        else ['.', '0']), c ∈ ['.', 'e', 'n'] := by
  have hsigned : ∀ c ∈ signText negative ++ text, IsRealCharacter c :=
    List.forall_mem_append.mpr ⟨fun _ => isRealCharacter_of_mem_signText, h⟩
  split
  next hmark =>
    rw [List.append_nil]
    obtain ⟨c, hc, hmark⟩ := List.any_eq_true.mp hmark
    refine ⟨hsigned, c, List.mem_append_right _ hc, ?_⟩
    rcases of_decide_eq_true hmark with rfl | rfl <;> decide
  next =>
    have hpoint : ∀ c ∈ ['.', '0'], IsRealCharacter c := isRealCharacter_of_all (by decide)
    refine ⟨List.forall_mem_append.mpr ⟨hsigned, hpoint⟩, '.', ?_, by decide⟩
    exact List.mem_append_right _ (by decide)

/-- The text of a real is made of digits, a point, signs, and letters of an exponent or of the
words for what is not finite; and it has a point or one of these letters in it. -/
theorem shortest_toList (f : BinaryFormat) (x : BinaryValue) :
    (∀ c ∈ (x.shortest f).toList, IsRealCharacter c) ∧
      ∃ c ∈ (x.shortest f).toList, c ∈ ['.', 'e', 'n'] := by
  unfold shortest shortestBelow
  split
  next =>
    rw [String.toList_ofList]
    exact ⟨isRealCharacter_of_all (by decide), 'n', by decide, by decide⟩
  next negative =>
    rw [String.toList_ofList]
    cases negative <;> exact ⟨isRealCharacter_of_all (by decide), 'n', by decide, by decide⟩
  next negative significand exponent =>
    split
    next =>
      rw [String.toList_ofList]
      cases negative <;> exact ⟨isRealCharacter_of_all (by decide), '.', by decide, by decide⟩
    next =>
      rw [String.toList_ofList]
      refine marked ?_
      intro c hc
      split at hc
      next => exact Magnitude.isRealCharacter_of_mem_positional hc
      next => exact Magnitude.isRealCharacter_of_mem_exponential hc

end BinaryValue

namespace Numeral

variable {R : Type} [Numeral R]

theorem readInt?_shortest (x : R) : readInt? (shortest x) = none := by
  obtain ⟨-, c, hmem, hmark⟩ := BinaryValue.shortest_toList (format R) (value x)
  have hforeign : IsForeign c := by
    simp only [List.mem_cons, List.not_mem_nil, or_false] at hmark
    rcases hmark with rfl | rfl | rfl <;> decide
  exact readInt?_eq_none hmem hforeign

theorem ne_null_of_mem_shortest (x : R) : ∀ c ∈ (shortest x).toList, c ≠ '\x00' := by
  rintro _ hmem rfl
  have hcharacter := (BinaryValue.shortest_toList (format R) (value x)).1 _ hmem
  revert hcharacter
  decide

end Numeral

/-! ## Number systems -/

/-- Number systems in which the decimal of an integer and the integer make the same number,
wherever the integer is in range. -/
class ReadsIntegers (R : Type) [Arithmetic R] [Numeral R] : Prop where
  ofDecimal_eq {n : Int} {x : R} : Number.realOfInt n = .ok x →
    Numeral.ofDecimal (decide (n < 0)) ⟨n.natAbs, 0⟩ = x

namespace BinaryFormat

variable {f : BinaryFormat} {n : Nat}

theorem nearestDecimal_natural (negative : Bool) (h : decimalLength n ≤ f.decimalReach) :
    f.nearestDecimal negative ⟨n, 0⟩ = f.nearest negative n 1 := by
  have hhigh : ¬ (f.decimalReach : Int) < 0 + (decimalLength n : Int) := by omega
  have hlow : ¬ 0 + (decimalLength n : Int) < -(f.decimalReach : Int) := by omega
  have hquotient : (⟨n, 0⟩ : Decimal).quotient = (n, 1) := by
    simp [Decimal.quotient, pow10]
  simp only [nearestDecimal, hhigh, hlow, hquotient, if_false]
  split
  next hzero => rw [hzero]
  next => rfl

theorem binaryExponent_natural (hn : n ≠ 0) : binaryExponent n 1 = n.log2 := by
  have hone : (1 : Nat).log2 = 0 := by decide
  have hguess : (n.log2 : Int) - ((1 : Nat).log2 : Int) = n.log2 := by
    rw [hone]
    omega
  have hbelow : 1 * pow2 n.log2 ≤ n := by
    rw [Nat.one_mul]
    exact Nat.log2_self_le hn
  simp only [binaryExponent, hguess, Int.natCast_nonneg, if_true, Int.toNat_natCast, hbelow]

/-- An integer whose leading bit lies beyond the exponents of a format is infinite. -/
theorem nearestMagnitude_of_le_log2 (hexponent : 1 ≤ f.exponentBits)
    (hfraction : f.fractionBits ≤ n.log2) (hlog : pow2 (f.exponentBits - 1) ≤ n.log2) :
    f.nearestMagnitude n 1 = f.infinityBits := by
  have hhalf := pow2_pos (f.exponentBits - 1)
  have hdouble : pow2 f.exponentBits = pow2 (f.exponentBits - 1) * 2 := by
    rw [← pow2_succ, Nat.sub_add_cancel hexponent]
  have hn : n ≠ 0 := by
    rintro rfl
    rw [Nat.log2_zero] at hlog
    omega
  have hmax : max ((n.log2 : Int) - f.fractionBits) f.minExponent
      = ((n.log2 - f.fractionBits : Nat) : Int) := by
    rw [minExponent]
    omega
  have hplaces : (((n.log2 - f.fractionBits : Nat) : Int) - f.minExponent).toNat
      = n.log2 + pow2 (f.exponentBits - 1) - 2 := by
    rw [minExponent]
    omega
  have hsignificand : pow2 f.fractionBits
      ≤ roundQuotient n (1 * pow2 (n.log2 - f.fractionBits)) := by
    have hfloor : pow2 f.fractionBits ≤ n / (1 * pow2 (n.log2 - f.fractionBits)) := by
      rw [Nat.one_mul, Nat.le_div_iff_mul_le (pow2_pos _)]
      show 2 ^ f.fractionBits * 2 ^ (n.log2 - f.fractionBits) ≤ n
      rw [← Nat.pow_add, Nat.add_sub_cancel' hfraction]
      exact Nat.log2_self_le hn
    rcases roundQuotient_eq_or n (1 * pow2 (n.log2 - f.fractionBits)) with h | h <;> omega
  simp only [nearestMagnitude, hn, if_false, binaryExponent_natural hn, hmax,
    Int.natCast_nonneg, if_true, Int.toNat_natCast, hplaces]
  refine Nat.min_eq_right ?_
  have hmultiple : (pow2 (f.exponentBits - 1) + pow2 (f.exponentBits - 1) - 2)
        * pow2 f.fractionBits
      ≤ (n.log2 + pow2 (f.exponentBits - 1) - 2) * pow2 f.fractionBits :=
    Nat.mul_le_mul_right _ (by omega)
  calc f.infinityBits
      = (pow2 (f.exponentBits - 1) + pow2 (f.exponentBits - 1) - 2 + 1)
          * pow2 f.fractionBits := by
        rw [infinityBits, hdouble]
        congr 1
        omega
    _ = (pow2 (f.exponentBits - 1) + pow2 (f.exponentBits - 1) - 2) * pow2 f.fractionBits
          + pow2 f.fractionBits := Nat.succ_mul _ _
    _ ≤ _ := Nat.add_le_add hmultiple hsignificand

end BinaryFormat

/-- What is written for an integer and what an integer is made to are one double. -/
instance : ReadsIntegers Float where
  ofDecimal_eq {n x} h := by
    have hofInt : (Arithmetic.ofInt n : Float)
      = doubleOfBits (binary64.nearest (decide (n < 0)) n.natAbs 1) := rfl
    have hfinite : (Arithmetic.ofInt n : Float).isFinite = true ∧ Arithmetic.ofInt n = x := by
      simp only [Number.realOfInt] at h
      split at h
      next hfinite => exact ⟨hfinite, Except.ok.inj h⟩
      next => cases h
    by_cases hreach : decimalLength n.natAbs ≤ binary64.decimalReach
    · rw [← hfinite.2, hofInt, ← BinaryFormat.nearestDecimal_natural _ hreach]
      rfl
    · -- An integer beyond the reach of decimals is infinite.
      have hlarge : 10 ^ binary64.decimalReach ≤ n.natAbs := by
        rwa [decimalLength, Nat.length_toDigits_le_iff (by decide) (by decide),
          Nat.not_lt] at hreach
      have hpower : 2 ^ binary64.decimalReach ≤ n.natAbs :=
        Nat.le_trans (Nat.pow_le_pow_left (by decide) _) hlarge
      have hlog : binary64.decimalReach ≤ n.natAbs.log2 :=
        (Nat.le_log2 (Nat.ne_of_gt (Nat.lt_of_lt_of_le (Nat.two_pow_pos _) hpower))).mpr hpower
      have hmagnitude : binary64.nearestMagnitude n.natAbs 1 = binary64.infinityBits :=
        BinaryFormat.nearestMagnitude_of_le_log2 (by decide)
          (Nat.le_trans (by decide) hlog) (Nat.le_trans (by decide) hlog)
      have hinfinite : ∀ negative : Bool, (doubleOfBits
          (binary64.infinityBits + if negative then binary64.signWeight else 0)).isFinite
            = false := by
        decide +kernel
      rw [hofInt, BinaryFormat.nearest, hmagnitude, hinfinite] at hfinite
      cases hfinite.1

end MeshlessGas
