import Axium.Lib.Run

/-!
# Durations as texts

`secsToTimeString` writes the days, hours, minutes and seconds that are not zero, and `TimeStringToSecs` reads the
short form: the digits of a number are gathered in a buffer, and its unit adds it to the sum.
-/

namespace Axium.Durations

def MINUTE : Nat := 60
def HOUR : Nat := 3600
def DAY : Nat := 86400

def part (n : Nat) (shortText : Bool) (short long : String) : List Char :=
  Nat.toDigits 10 n ++ if shortText then short.toList else long.toList

def secsToTimeString (timeInSecs : Nat) (shortText hoursOnly : Bool) : List Char :=
  let secs := timeInSecs % MINUTE
  let minutes := timeInSecs % HOUR / MINUTE
  let hours := timeInSecs % DAY / HOUR
  let days := timeInSecs / DAY
  (if days ≠ 0 then part days shortText "d" " Day(s) " else []) ++
  (if hours ≠ 0 ∨ hoursOnly = true then part hours shortText "h" " Hour(s) " else []) ++
  (if hoursOnly then []
  else (if minutes ≠ 0 then part minutes shortText "m" " Minute(s) " else []) ++
    (if secs ≠ 0 ∨ days = 0 ∧ hours = 0 ∧ minutes = 0 then part secs shortText "s" " Second(s)." else []))

/-- The variables of `TimeStringToSecs`; `bad` says that it has returned 0 for a bad format. -/
structure Reading where
  secs : Nat := 0
  buffer : Nat := 0
  bad : Bool := false

def multiplier : Char → Option Nat
  | 'd' => some DAY
  | 'h' => some HOUR
  | 'm' => some MINUTE
  | 's' => some 1
  | _ => none

namespace Reading

def step (r : Reading) (c : Char) : Reading :=
  if r.bad then r
  else if c.isDigit then { r with buffer := (r.buffer * 10 % 2 ^ 32 + (c.toNat - 48)) % 2 ^ 32 }
  else
    match multiplier c with
    | none => { r with bad := true }
    | some m => { r with secs := (r.secs + r.buffer * m % 2 ^ 32) % 2 ^ 32, buffer := 0 }

def Fits (r : Reading) (c : Char) : Prop :=
  if c.isDigit then r.buffer * 10 + (c.toNat - 48) < 2 ^ 32
  else ∀ m ∈ multiplier c, r.secs + r.buffer * m < 2 ^ 32

end Reading

def timeStringToSecs (timestring : List Char) : Nat :=
  let r := Run.run Reading.step {} timestring
  if r.bad then 0 else r.secs

/-! ## Reading what was written -/

/-- The text takes one reading to the other, and nothing wraps. -/
def Reads (r : Reading) (text : List Char) (r' : Reading) : Prop :=
  Run.AllSteps Reading.step Reading.Fits r text ∧ Run.run Reading.step r text = r'

theorem Reads.append {r r' r'' : Reading} {text text' : List Char} (h : Reads r text r') (h' : Reads r' text' r'') :
    Reads r (text ++ text') r'' := by
  obtain ⟨hfits, rfl⟩ := h
  exact ⟨Run.allSteps_append.2 ⟨hfits, h'.1⟩, (Run.run_append ..).trans h'.2⟩

theorem reads_digit (secs n : Nat) {d : Nat} (hd : d < 10) (hn : n * 10 + d < 2 ^ 32) :
    Reads { secs, buffer := n } [d.digitChar] { secs, buffer := n * 10 + d } := by
  have hdigit : d.digitChar.isDigit = true := by rw [Nat.isDigit_digitChar, decide_eq_true hd]
  have hvalue := Nat.toNat_digitChar_sub_48_of_lt_ten hd
  refine ⟨⟨?_, trivial⟩, ?_⟩
  · rw [Reading.Fits, if_pos hdigit, hvalue]
    exact hn
  · rw [Run.run_cons, Run.run_nil, Reading.step, if_neg Bool.false_ne_true, if_pos hdigit]
    dsimp only
    congr 1
    omega

theorem reads_toDigits (secs n : Nat) (hn : n < 2 ^ 32) : Reads { secs } (Nat.toDigits 10 n) { secs, buffer := n } := by
  induction n using Nat.strongRecOn with
  | _ n ih =>
    rw [Nat.toDigits_eq_if (by decide)]
    split
    · next hlt => simpa using reads_digit secs 0 hlt (by omega)
    · next hle =>
      have hlast := reads_digit secs (n / 10) (d := n % 10) (by omega) (by omega)
      have hvalue : n / 10 * 10 + n % 10 = n := by omega
      rw [hvalue] at hlast
      exact (ih (n / 10) (by omega) (by omega)).append hlast

theorem reads_part {secs n m : Nat} {c : Char} (hc : c.isDigit = false) (hm : multiplier c = some m)
    (hn : n < 2 ^ 32) (hfits : secs + n * m < 2 ^ 32) :
    Reads { secs } (Nat.toDigits 10 n ++ [c]) { secs := secs + n * m } := by
  refine (reads_toDigits secs n hn).append ⟨⟨?_, trivial⟩, ?_⟩
  · rw [Reading.Fits, if_neg (by rw [hc]; exact Bool.false_ne_true), hm]
    rintro _ ⟨⟩
    exact hfits
  · rw [Run.run_cons, Run.run_nil, Reading.step, if_neg Bool.false_ne_true, if_neg (by rw [hc]; exact Bool.false_ne_true), hm]
    dsimp only
    congr 1
    rw [Nat.mod_eq_of_lt (lt_of_le_of_lt (Nat.le_add_left ..) hfits), Nat.mod_eq_of_lt hfits]

theorem reads_unit {p : Prop} [Decidable p] {secs n m : Nat} {short long : String} {c : Char} (hshort : short.toList = [c])
    (hc : c.isDigit = false) (hm : multiplier c = some m) (hn : n < 2 ^ 32) (hfits : secs + n * m < 2 ^ 32)
    (hzero : ¬ p → n = 0) :
    Reads { secs } (if p then part n true short long else []) { secs := secs + n * m } := by
  split
  · rw [part, hshort]
    exact reads_part hc hm hn hfits
  · next hp =>
    rw [hzero hp, zero_mul]
    exact ⟨trivial, rfl⟩

/-- **Durations round trip**, and no product or sum wraps on the way. -/
theorem timeStringToSecs_secsToTimeString (t : Nat) (ht : t < 2 ^ 32) :
    timeStringToSecs (secsToTimeString t true false) = t ∧
      Run.AllSteps Reading.step Reading.Fits {} (secsToTimeString t true false) := by
  have hreads : Reads {} (secsToTimeString t true false) { secs := t } := by
    have hsum : t = 0 + t / DAY * DAY + t % DAY / HOUR * HOUR + t % HOUR / MINUTE * MINUTE + t % MINUTE * 1 := by
      unfold DAY HOUR MINUTE
      omega
    unfold secsToTimeString
    dsimp only
    conv => arg 3; rw [hsum]
    refine .append (.append (reads_unit rfl rfl rfl ?_ ?_ ?_) (reads_unit rfl rfl rfl ?_ ?_ ?_))
      (.append (reads_unit rfl rfl rfl ?_ ?_ ?_) (reads_unit rfl rfl rfl ?_ ?_ ?_))
    all_goals
      simp only [DAY, HOUR, MINUTE] at *
      omega
  refine ⟨?_, hreads.1⟩
  rw [timeStringToSecs, hreads.2]
  rfl

theorem timeStringToSecs_secsToTimeString_day : timeStringToSecs (secsToTimeString 86461 true false) = 86461 :=
  (timeStringToSecs_secsToTimeString 86461 (by decide)).1

end Axium.Durations
