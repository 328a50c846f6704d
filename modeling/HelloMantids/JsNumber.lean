import Mathlib.Data.List.TakeWhile
import Mathlib.Tactic.Ring

/-! The whole Numbers of ECMAScript: doubles of integer value, written by
Number::toString in the fewest digits that read back as the same double, and read by
parseInt. -/
namespace HelloMantids.JsNumber

/-- The nearest double, ties to even, for values that do not overflow. -/
def round53 (n : Nat) : Nat :=
  if n < 2^53 then n
  else
    let unit := 2^(n.log2 - 52)
    let q := n / unit
    let r := n % unit
    if 2 * r < unit ∨ (2 * r = unit ∧ q % 2 = 0) then q * unit else (q + 1) * unit

def Whole (n : Nat) : Prop := round53 n = n ∧ n < 2^1024
instance (n) : Decidable (Whole n) := by unfold Whole; infer_instance

inductive Number where
  | whole (n : Nat)
  | infinity
  | nan
  deriving DecidableEq, Repr

theorem wholeBelow {n : Nat} (below : n < 2^53) : Whole n := by
  have power : 2^53 ≤ 2^1024 := pow_le_pow_right₀ (by decide) (by decide)
  exact ⟨if_pos below,Nat.lt_of_lt_of_le below power⟩

def ofInteger (n : Nat) : Number :=
  if round53 n < 2^1024 then .whole (round53 n) else .infinity

/-- A multiple of 10^j that reads back as `x`, the closer one if there are two. -/
def multiple (x j : Nat) : Option Nat :=
  let down := x / 10^j * 10^j
  let up := down + 10^j
  if round53 down = x then
    if round53 up = x ∧ (10^j < 2 * (x - down) ∨ (10^j = 2 * (x - down) ∧ x / 10^j % 2 = 1)) then some up
    else some down
  else if round53 up = x then some up
  else none

def shortestFrom (x : Nat) : Nat → Nat
  | 0 => x
  | j+1 => (multiple x (j + 1)).getD (shortestFrom x j)

def shortest (x : Nat) : Nat := shortestFrom x ((Nat.toDigits 10 x).length - 1)

def exponential (v : Nat) : String :=
  let digits := Nat.toDigits 10 v
  let exponent := "e+" ++ toString (digits.length - 1)
  match (digits.reverse.dropWhile (· = '0')).reverse with
  | [] => "0"
  | [d] => String.ofList [d] ++ exponent
  | d::rest => String.ofList ([d,'.'] ++ rest) ++ exponent

def wholeText (x : Nat) : String :=
  let v := shortest x
  if v < 10^21 then toString v else exponential v

def Number.text : Number → String
  | .whole n => wholeText n
  | .infinity => "Infinity"
  | .nan => "NaN"

-- Number texts have no blank, sign or radix before their digits.
def parseInt (text : String) : Number :=
  match text.toList.takeWhile Char.isDigit with
  | [] => .nan
  | digits => ofInteger (Nat.ofDigitChars 10 digits 0)

/-! The texts below 10^21 are digits, and read back as their numbers. -/
def Digits (text : String) : Prop := text ≠ "" ∧ ∀ c ∈ text.toList, c.isDigit

theorem digitsDecimal (v : Nat) : Digits (toString v) := by
  refine ⟨Nat.repr_ne_empty,fun c mem => ?_⟩
  rw [Nat.toString_eq_repr,Nat.toList_repr] at mem
  exact Nat.isDigit_of_mem_toDigits (by decide) (by decide) mem

theorem parseDecimal (v : Nat) (tail : String) (stops : tail.toList.takeWhile Char.isDigit = []) :
    parseInt (toString v ++ tail) = ofInteger v := by
  have digits : (toString v ++ tail).toList.takeWhile Char.isDigit = Nat.toDigits 10 v := by
    rw [String.toList_append,List.takeWhile_append_of_pos (digitsDecimal v).2,stops,List.append_nil,
      Nat.toString_eq_repr,Nat.toList_repr]
  unfold parseInt
  rw [digits]
  split
  · rename_i empty; exact absurd empty Nat.toDigits_ne_nil
  · rw [Nat.ofDigitChars_ten_toDigits]

theorem multipleSource {x j v : Nat} (found : multiple x j = some v) :
    round53 v = x ∧ v ≤ x / 10^j * 10^j + 10^j := by
  simp only [multiple] at found
  split at found
  · rename_i down
    split at found
    · rename_i up
      cases Option.some.inj found
      exact ⟨up.1,Nat.le_refl _⟩
    · cases Option.some.inj found
      exact ⟨down,Nat.le_add_right _ _⟩
  · split at found <;> try contradiction
    rename_i up
    cases Option.some.inj found
    exact ⟨up,Nat.le_refl _⟩

theorem shortestFromReads {x : Nat} (same : round53 x = x) (j : Nat) : round53 (shortestFrom x j) = x := by
  induction j with
  | zero => exact same
  | succ j ih =>
    rw [shortestFrom]
    cases found : multiple x (j + 1) with
    | none => exact ih
    | some v => exact (multipleSource found).1

theorem multipleBelow {x j n : Nat} (below : x < 10^n) (few : j ≤ n) :
    x / 10^j * 10^j + 10^j ≤ 10^n := by
  have power : 10^n = 10^(n - j) * 10^j := by rw [← Nat.pow_add]; congr 1; omega
  have less : x / 10^j < 10^(n - j) := by
    rw [Nat.div_lt_iff_lt_mul (Nat.pow_pos (by decide)),← power]; exact below
  calc x / 10^j * 10^j + 10^j = (x / 10^j + 1) * 10^j := by ring
    _ ≤ 10^(n - j) * 10^j := Nat.mul_le_mul_right _ less
    _ = 10^n := power.symm

theorem shortestFromBelow {x n : Nat} (below : x < 10^n) {j : Nat} (few : j ≤ n) :
    shortestFrom x j ≤ 10^n := by
  induction j with
  | zero => exact Nat.le_of_lt below
  | succ j ih =>
    rw [shortestFrom]
    cases found : multiple x (j + 1) with
    | none => exact ih (by omega)
    | some v => exact Nat.le_trans (multipleSource found).2 (multipleBelow below few)

theorem shortestReads {x : Nat} (whole : Whole x) : round53 (shortest x) = x :=
  shortestFromReads whole.1 _

theorem shortestSmall {x : Nat} (whole : Whole x) (below : x < 10^21) : shortest x < 10^21 := by
  have length : (Nat.toDigits 10 x).length ≤ 21 := (Nat.length_toDigits_le_iff (by decide) (by decide)).mpr below
  have most : shortest x ≤ 10^21 := shortestFromBelow below (by omega)
  -- 10^21 is a double itself, so it reads back as no smaller number
  have other : shortest x ≠ 10^21 := by
    intro same
    have reads := shortestReads whole
    rw [same,show round53 (10^21) = 10^21 by decide +kernel] at reads
    omega
  omega

theorem textDecimal {x : Nat} (whole : Whole x) (below : x < 10^21) : wholeText x = toString (shortest x) := by
  unfold wholeText
  exact if_pos (shortestSmall whole below)

theorem textDigits {x : Nat} (whole : Whole x) (below : x < 10^21) : Digits (wholeText x) := by
  rw [textDecimal whole below]
  exact digitsDecimal _

theorem parseTextBefore {x : Nat} (whole : Whole x) (below : x < 10^21) (tail : String)
    (stops : tail.toList.takeWhile Char.isDigit = []) : parseInt (wholeText x ++ tail) = .whole x := by
  rw [textDecimal whole below,parseDecimal _ tail stops,ofInteger,shortestReads whole,if_pos whole.2]

theorem parseText {x : Nat} (whole : Whole x) (below : x < 10^21) : parseInt (wholeText x) = .whole x := by
  simpa using parseTextBefore whole below "" rfl

theorem textInjective {x y : Nat} (left : Whole x) (lx : x < 10^21) (right : Whole y) (ly : y < 10^21)
    (same : wholeText x = wholeText y) : x = y := by
  have reads := parseText left lx
  rw [same,parseText right ly] at reads
  exact (Number.whole.inj reads).symm

/-! Numbers below 2^32 are their own digits, and no greater one reads as one of them. -/
theorem round53Large {n : Nat} (large : 2^53 ≤ n) : 2^52 ≤ round53 n := by
  have log : 52 ≤ n.log2 := (Nat.le_log2 (by omega)).mpr (Nat.le_trans (Nat.pow_le_pow_right (by decide) (by decide)) large)
  have unit : 0 < 2^(n.log2 - 52) := Nat.pow_pos (by decide)
  have top : 2^52 * 2^(n.log2 - 52) ≤ n := by
    rw [← Nat.pow_add,Nat.add_sub_cancel' log]
    exact Nat.log2_self_le (by omega)
  have q : 2^52 ≤ n / 2^(n.log2 - 52) := (Nat.le_div_iff_mul_le unit).mpr top
  unfold round53
  rw [if_neg (by omega)]
  dsimp only
  split
  · exact Nat.le_trans q (Nat.le_mul_of_pos_right _ unit)
  · exact Nat.le_trans (Nat.le_succ_of_le q) (Nat.le_mul_of_pos_right _ unit)

theorem roundExact {a k : Nat} (small : a < 2^53) : round53 (a * 2^k) = a * 2^k := by
  by_cases fits : a * 2^k < 2^53
  · exact if_pos fits
  · have positive : a * 2^k ≠ 0 := by omega
    have log : (a * 2^k).log2 < 53 + k := by
      rw [Nat.log2_lt positive,Nat.pow_add]
      exact Nat.mul_lt_mul_of_pos_right small (Nat.pow_pos (by decide))
    have divides : 2^((a * 2^k).log2 - 52) ∣ a * 2^k :=
      Nat.dvd_trans (Nat.pow_dvd_pow 2 (by omega)) (Nat.dvd_mul_left _ a)
    unfold round53
    rw [if_neg fits]
    dsimp only
    rw [Nat.mod_eq_zero_of_dvd divides,if_pos (Or.inl (Nat.pow_pos (by decide)))]
    exact Nat.div_mul_cancel divides

theorem roundTwice (n : Nat) : round53 (round53 n) = round53 n := by
  by_cases small : n < 2^53
  · rw [show round53 n = n from if_pos small]
    exact if_pos small
  have log : 52 ≤ n.log2 :=
    (Nat.le_log2 (by omega)).mpr (Nat.le_trans (Nat.pow_le_pow_right (by decide) (by decide)) (Nat.le_of_not_lt small))
  have q : n / 2^(n.log2 - 52) < 2^53 := by
    rw [Nat.div_lt_iff_lt_mul (Nat.pow_pos (by decide)),← Nat.pow_add,show 53 + (n.log2 - 52) = n.log2 + 1 by omega]
    exact Nat.lt_log2_self
  have rounded : ∃ a k, a ≤ 2^53 ∧ round53 n = a * 2^k := by
    unfold round53
    rw [if_neg small]
    dsimp only
    split
    · exact ⟨_,_,Nat.le_of_lt q,rfl⟩
    · exact ⟨_,_,q,rfl⟩
  obtain ⟨a,k,most,same⟩ := rounded
  rw [same]
  rcases Nat.lt_or_eq_of_le most with below | top
  · exact roundExact below
  · have power : a * 2^k = 1 * 2^(53 + k) := by rw [top,Nat.pow_add,Nat.one_mul]
    rw [power]
    exact roundExact (by decide)

theorem round53Below {n : Nat} (below : round53 n < 2^32) : round53 n = n := by
  by_cases small : n < 2^53
  · exact if_pos small
  · have large := round53Large (Nat.le_of_not_lt small)
    omega

theorem shortestExact {x : Nat} (below : x < 2^32) : shortest x = x := by
  have reads := shortestReads (wholeBelow (Nat.lt_trans below (by decide)))
  rw [← reads] at below
  exact (round53Below below).symm.trans reads

theorem shortestAbove {x : Nat} (whole : Whole x) (above : 2^32 ≤ x) : 2^32 ≤ shortest x := by
  have reads := shortestReads whole
  by_contra small
  have same : round53 (shortest x) = shortest x := if_pos (by omega)
  omega

def parseSigned (text : String) : Bool × Number :=
  match text.toList with
  | '-'::rest => (true,parseInt (String.ofList rest))
  | _ => (false,parseInt text)

example : wholeText (2^60) = "1152921504606847000" := by decide +kernel
example : wholeText (10^21) = "1e+21" := by decide +kernel

end HelloMantids.JsNumber
