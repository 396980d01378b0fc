import QueryTyping.Text.LowerCase

/-!
# Lower case is stable

A small letter has no further small letter: lower casing a text twice is lower
casing it once (`lower_lower`).  Names can therefore be compared in lower case
however often they were lowered before.
-/

namespace QueryTyping.Text

attribute [local irreducible] lowerCaseRuns

/-- A capital of the run has this code point. -/
def CaseRun.Holds (run : CaseRun) (n : Nat) : Prop :=
  run.first ≤ n ∧ n ≤ run.last ∧ (n - run.first) % run.step = 0

instance (run : CaseRun) (n : Nat) : Decidable (run.Holds n) :=
  inferInstanceAs (Decidable (_ ∧ _ ∧ _))

/-- The small letter of a capital of the run. -/
def CaseRun.small (run : CaseRun) (n : Nat) : Nat := ((n : Int) + run.shift).toNat

/-- The small letters of one run lie outside another, or between its capitals. -/
def CaseRun.apart (run other : CaseRun) : Bool :=
  Nat.blt (run.small run.last) other.first || Nat.blt other.last (run.small run.first) ||
    (Nat.beq other.step 2 && (Nat.beq run.step 2 || Nat.beq run.first run.last) &&
      Nat.beq ((run.small run.first + other.first) % 2) 1)

/-- The dotted capital I, which no run has. -/
def dottedRun : CaseRun := ⟨0x130, 0x130, 1, 0⟩

/-- No run leads to a capital. -/
theorem runs_apart :
    (lowerCaseRuns.toList.all fun run =>
      decide (0 ≤ run.first + run.shift) && run.apart dottedRun &&
        lowerCaseRuns.toList.all run.apart) = true := by
  decide +kernel

/-- No run holds the code points of the small letters that are written out in `lowerFrom`, nor
zero, which stands for an impossible character. -/
theorem runs_free :
    ([0, 0x69, 0x307, 0x3c2, 0x3c3].all fun n =>
      lowerCaseRuns.toList.all fun run => !decide (run.Holds n)) = true := by
  decide +kernel

/-- No run holds the underscore or a small letter of ASCII. -/
theorem runs_skip_small :
    (lowerCaseRuns.toList.all fun run => Nat.blt run.last 0x5f || Nat.blt 0x7a run.first) =
      true := by
  decide +kernel

/-- The runs start with the capitals of ASCII. -/
theorem runs_start : (lowerCaseRuns.toList.all fun run => Nat.blt 0x40 run.first) = true := by
  decide +kernel

/-- The capital sigma is in a run, though `lowerFrom` sees to it first. -/
theorem runs_sigma : (lowerCaseRuns.toList.any fun run => run.Holds 0x3a3) = true := by
  decide +kernel

theorem not_holds_of_free {n : Nat} (listed : n ∈ [0, 0x69, 0x307, 0x3c2, 0x3c3])
    {run : CaseRun} (member : run ∈ lowerCaseRuns) : ¬ run.Holds n := by
  have all := List.all_eq_true.mp runs_free n listed
  simpa using List.all_eq_true.mp all run (Array.mem_toList_iff.mpr member)

theorem CaseRun.apart_holds {run other : CaseRun} {n : Nat} (separate : run.apart other = true)
    (held : run.Holds n) (low : 0 ≤ (run.first : Int) + run.shift) :
    ¬ other.Holds (run.small n) := by
  rintro ⟨above, below, even⟩
  obtain ⟨first, last, step⟩ := held
  simp only [apart, Bool.or_eq_true, Bool.and_eq_true, Nat.blt_eq, Nat.beq_eq, small] at *
  rcases separate with (high | beyond) | ⟨⟨two, runStep | single⟩, odd⟩
  · omega
  · omega
  · rw [two] at even
    rw [runStep] at step
    omega
  · rw [two] at even
    omega

theorem lowerChar_of_not_holds {c : Char} (free : ∀ run ∈ lowerCaseRuns, ¬ run.Holds c.toNat) :
    lowerChar c = c := by
  have missing : (lowerCaseRuns.find? fun run =>
      run.first ≤ c.toNat && c.toNat ≤ run.last && (c.toNat - run.first) % run.step == 0) =
      none := by
    rw [Array.find?_eq_none]
    intro run member held
    exact free run member (by simpa [CaseRun.Holds, and_assoc] using held)
  delta lowerChar
  dsimp only
  rw [missing]

/-- A character is moved by the run that holds it, and stays if no run does. -/
theorem lowerChar_cases (c : Char) :
    (∃ run ∈ lowerCaseRuns, run.Holds c.toNat ∧ lowerChar c = Char.ofNat (run.small c.toNat)) ∨
    lowerChar c = c := by
  cases found : lowerCaseRuns.find? fun run =>
      run.first ≤ c.toNat && c.toNat ≤ run.last && (c.toNat - run.first) % run.step == 0 with
  | none =>
    right
    delta lowerChar
    dsimp only
    rw [found]
  | some run =>
    left
    have held := Array.find?_some found
    refine ⟨run, Array.mem_of_find?_eq_some found, ?_, ?_⟩
    · simpa [CaseRun.Holds, and_assoc] using held
    · delta lowerChar
      dsimp only
      rw [found]
      rfl

theorem toNat_ofNat_cases (n : Nat) : (Char.ofNat n).toNat = n ∨ (Char.ofNat n).toNat = 0 := by
  by_cases valid : n.isValidChar
  · left
    rw [Char.ofNat, dif_pos valid]
    rfl
  · right
    simp [Char.ofNat, valid, Char.toNat]

/-- Lower casing leaves the character alone wherever it stands. -/
structure Settled (c : Char) : Prop where
  sigma : c ≠ '\u03a3'
  dotted : c ≠ '\u0130'
  small : lowerChar c = c

theorem settled_of_free {c : Char} (listed : c.toNat ∈ [0, 0x69, 0x307, 0x3c2, 0x3c3]) :
    Settled c := by
  refine ⟨?_, ?_, lowerChar_of_not_holds fun run member => not_holds_of_free listed member⟩
  · rintro rfl
    revert listed
    decide
  · rintro rfl
    revert listed
    decide

/-- The small letter that a run leads to is settled: by the tables no run holds it, and it is
neither of the two capitals with a rule of their own. -/
theorem settled_ofNat_small {run : CaseRun} {n : Nat} (member : run ∈ lowerCaseRuns)
    (held : run.Holds n) : Settled (Char.ofNat (run.small n)) := by
  have checks := List.all_eq_true.mp runs_apart run (Array.mem_toList_iff.mpr member)
  simp only [Bool.and_eq_true, decide_eq_true_eq] at checks
  obtain ⟨⟨low, fromDotted⟩, fromRuns⟩ := checks
  -- A code point that is no character becomes zero, which no run holds either.
  rcases toNat_ofNat_cases (run.small n) with same | zero
  · have free : ∀ other ∈ lowerCaseRuns, ¬ other.Holds (Char.ofNat (run.small n)).toNat := by
      intro other belongs
      rw [same]
      exact CaseRun.apart_holds
        (List.all_eq_true.mp fromRuns other (Array.mem_toList_iff.mpr belongs)) held low
    refine ⟨?_, ?_, lowerChar_of_not_holds free⟩
    · intro equal
      obtain ⟨other, belongs, sigmaHeld⟩ := List.any_eq_true.mp runs_sigma
      rw [equal] at free
      exact free other (Array.mem_toList_iff.mp belongs) (of_decide_eq_true sigmaHeld)
    · intro equal
      rw [equal] at same
      have notDotted := CaseRun.apart_holds fromDotted held low
      rw [← same] at notDotted
      exact notDotted (by decide)
  · exact settled_of_free (by simp [zero])

theorem settled_lowerChar {c : Char} (sigma : c ≠ '\u03a3') (dotted : c ≠ '\u0130') :
    Settled (lowerChar c) := by
  rcases lowerChar_cases c with ⟨run, member, held, moved⟩ | same
  · rw [moved]
    exact settled_ofNat_small member held
  · rw [same]
    exact ⟨sigma, dotted, same⟩

theorem lowerFrom_of_settled {s : List Char} (settled : ∀ c ∈ s, Settled c) (before : List Char) :
    lowerFrom before s = s := by
  induction s generalizing before with
  | nil => rfl
  | cons c rest ih =>
    have head := settled c (by simp)
    rw [lowerFrom, if_neg head.sigma, if_neg head.dotted, head.small,
      ih (fun d member => settled d (by simp [member]))]
    rfl

theorem settled_of_mem_lowerFrom {s before : List Char} {c : Char}
    (member : c ∈ lowerFrom before s) : Settled c := by
  induction s generalizing before with
  | nil => simp [lowerFrom] at member
  | cons d rest ih =>
    rw [lowerFrom, List.mem_append] at member
    rcases member with head | later
    · split at head
      · split at head
        · obtain rfl := List.mem_singleton.mp head
          exact settled_of_free (by decide)
        · obtain rfl := List.mem_singleton.mp head
          exact settled_of_free (by decide)
      · split at head
        · simp only [List.mem_cons, List.not_mem_nil, or_false] at head
          rcases head with rfl | rfl
          · exact settled_of_free (by decide)
          · exact settled_of_free (by decide)
        · obtain rfl := List.mem_singleton.mp head
          exact settled_lowerChar ‹_› ‹_›
    · exact ih later

/-- The characters of ASCII that are no capitals, as far as the small letters go. -/
theorem settled_of_ascii {c : Char}
    (range : c.toNat ≤ 0x40 ∨ 0x5f ≤ c.toNat ∧ c.toNat ≤ 0x7a) : Settled c := by
  refine ⟨?_, ?_, lowerChar_of_not_holds fun run belongs held => ?_⟩
  · rintro rfl
    exact absurd range (by decide)
  · rintro rfl
    exact absurd range (by decide)
  · have above := List.all_eq_true.mp runs_start run (Array.mem_toList_iff.mpr belongs)
    have skips := List.all_eq_true.mp runs_skip_small run (Array.mem_toList_iff.mpr belongs)
    rw [Nat.blt_eq] at above
    rw [Bool.or_eq_true, Nat.blt_eq, Nat.blt_eq] at skips
    obtain ⟨first, last, -⟩ := held
    omega

theorem lower_of_settled {s : String} (settled : ∀ c ∈ s.toList, Settled c) : lower s = s := by
  unfold lower
  rw [lowerFrom_of_settled settled, String.ofList_toList]

/-- A text of small letters and underscores is its own lower case. -/
theorem lower_of_small {s : String}
    (small : (s.toList.all fun c => Nat.ble 0x5f c.toNat && Nat.ble c.toNat 0x7a) = true) :
    lower s = s := by
  apply lower_of_settled
  intro c member
  have between := List.all_eq_true.mp small c member
  rw [Bool.and_eq_true, Nat.ble_eq, Nat.ble_eq] at between
  exact settled_of_ascii (.inr between)

/-- Lower casing a text again changes nothing. -/
theorem lower_lower (s : String) : lower (lower s) = lower s := by
  unfold lower
  rw [String.toList_ofList, lowerFrom_of_settled fun c member => settled_of_mem_lowerFrom member]

end QueryTyping.Text
