import JsonClasses.Proofs.Naming.Words
import JsonClasses.Proofs.Unicode.Cases
import Mathlib.Data.List.Forall2

/-!
# Where words start

A run of alphanumeric characters is cut where a word starts in it, and whether one starts at a
character can be told from the character before it and the one behind it. Splitting decides the end
of several capitals one character late and still cuts at exactly these places.
-/
namespace JsonClasses.Words
open Unicode

/-- What stands between characters that are not alphanumeric. -/
def runs (cs : List Char) : List (List Char) :=
  (cs.splitOnP fun c => !isAlphanumeric c).filter fun run => !run.isEmpty

/-- Whether a word starts at `c`, behind `last` and in front of `next?` in the same run: at a capital
behind a small letter or a number, and at a capital in front of a small letter. -/
def startsWord (last c : Char) (next? : Option Char) : Bool :=
  isUppercase c && (isLowercase last || isNumeric last || next?.any isLowercase)

/-- Whether the characters `before` are some of the pieces, from the first on. -/
def CutBehind (pieces : List (List Char)) (before : List Char) : Prop :=
  ∃ front back, pieces = front ++ back ∧ front.flatten = before

/-- A run in pieces that are not empty, cut between two characters if and only if a word starts at
the second. -/
structure CutAtStarts (run : List Char) (pieces : List (List Char)) : Prop where
  whole : pieces.flatten = run
  nonempty : [] ∉ pieces
  cuts : ∀ before last c after, run = before ++ last :: c :: after →
    (CutBehind pieces (before ++ [last]) ↔ startsWord last c after.head? = true)

/-! ## Pieces of a run -/

theorem cutBehind_cons {piece before : List Char} {pieces : List (List Char)} :
    CutBehind (piece :: pieces) before ↔
      before = [] ∨ ∃ more, before = piece ++ more ∧ CutBehind pieces more := by
  constructor
  · rintro ⟨front, back, hpieces, rfl⟩
    cases front with
    | nil => exact .inl rfl
    | cons first front =>
      obtain ⟨rfl, rfl⟩ := List.cons.inj hpieces
      exact .inr ⟨front.flatten, rfl, front, back, rfl, rfl⟩
  · rintro (rfl | ⟨more, rfl, front, back, rfl, rfl⟩)
    · exact ⟨[], piece :: pieces, rfl, rfl⟩
    · exact ⟨piece :: front, back, rfl, rfl⟩

theorem eq_nil_of_flatten {pieces : List (List Char)} (hwhole : pieces.flatten = [])
    (hnonempty : [] ∉ pieces) : pieces = [] := by
  cases pieces with
  | nil => rfl
  | cons first rest =>
    have hfirst : first = [] := List.flatten_eq_nil_iff.mp hwhole first List.mem_cons_self
    exact absurd (hfirst ▸ List.mem_cons_self) hnonempty

theorem exists_first_piece {c : Char} {cs : List Char} {pieces : List (List Char)}
    (hwhole : pieces.flatten = c :: cs) (hnonempty : [] ∉ pieces) :
    ∃ piece rest, pieces = (c :: piece) :: rest ∧ piece ++ rest.flatten = cs := by
  cases pieces with
  | nil => cases hwhole
  | cons first rest =>
    cases first with
    | nil => exact absurd List.mem_cons_self hnonempty
    | cons d piece =>
      rw [List.flatten_cons, List.cons_append] at hwhole
      obtain ⟨rfl, hcs⟩ := List.cons.inj hwhole
      exact ⟨piece, rest, rfl, hcs⟩

/-- The pieces of a run with one more character in front. -/
def prepend (last c : Char) (after : List Char) (pieces : List (List Char)) : List (List Char) :=
  if startsWord last c after.head? then [last] :: pieces else pieces.modifyHead (last :: ·)

section Prepend

variable {last c : Char} {after : List Char} {pieces : List (List Char)}

theorem flatten_prepend (hwhole : pieces.flatten = c :: after) (hnonempty : [] ∉ pieces) :
    (prepend last c after pieces).flatten = last :: c :: after := by
  obtain ⟨piece, rest, rfl, hcs⟩ := exists_first_piece hwhole hnonempty
  rw [prepend]
  split
  · rw [List.flatten_cons, hwhole, List.singleton_append]
  · rw [List.modifyHead_cons, List.flatten_cons, List.cons_append, List.cons_append, hcs]

theorem nil_notMem_prepend (hnonempty : [] ∉ pieces) : [] ∉ prepend last c after pieces := by
  rw [prepend]
  split
  · simpa using hnonempty
  · cases pieces with
    | nil => exact hnonempty
    | cons piece rest => simpa using List.not_mem_of_not_mem_cons hnonempty

/-- The new cut is there when a word starts behind the new character. -/
theorem cutBehind_prepend_singleton (hwhole : pieces.flatten = c :: after)
    (hnonempty : [] ∉ pieces) :
    CutBehind (prepend last c after pieces) [last] ↔ startsWord last c after.head? = true := by
  obtain ⟨piece, rest, rfl, -⟩ := exists_first_piece hwhole hnonempty
  by_cases hstarts : startsWord last c after.head? = true
  · rw [prepend, if_pos hstarts, cutBehind_cons]
    refine iff_of_true (.inr ⟨[], rfl, [], _, rfl, rfl⟩) hstarts
  · rw [prepend, if_neg hstarts, List.modifyHead_cons, cutBehind_cons]
    refine iff_of_false ?_ hstarts
    simp

/-- The cuts behind it stay where they were. -/
theorem cutBehind_prepend_cons (hnonempty : [] ∉ pieces) {before : List Char}
    (hbefore : before ≠ []) :
    CutBehind (prepend last c after pieces) (last :: before) ↔ CutBehind pieces before := by
  by_cases hstarts : startsWord last c after.head? = true
  · rw [prepend, if_pos hstarts, cutBehind_cons]
    simp
  · rw [prepend, if_neg hstarts]
    cases pieces with
    | nil => simp [CutBehind, hbefore.symm]
    | cons piece rest =>
      rw [List.modifyHead_cons, cutBehind_cons, cutBehind_cons]
      simp [hbefore]

theorem CutAtStarts.exists_rest (h : CutAtStarts (last :: c :: after) pieces) :
    ∃ rest, rest.flatten = c :: after ∧ [] ∉ rest ∧ pieces = prepend last c after rest := by
  obtain ⟨piece, rest, rfl, hcs⟩ := exists_first_piece h.whole h.nonempty
  have hrest : [] ∉ rest := List.not_mem_of_not_mem_cons h.nonempty
  have hcut := h.cuts [] last c after rfl
  rw [List.nil_append, cutBehind_cons] at hcut
  -- The first piece ends behind the first character exactly if a word starts there.
  cases piece with
  | nil =>
    have hstarts : startsWord last c after.head? = true :=
      hcut.mp (.inr ⟨[], rfl, [], rest, rfl, rfl⟩)
    exact ⟨rest, hcs, hrest, by rw [prepend, if_pos hstarts]⟩
  | cons d piece =>
    have hstarts : ¬ startsWord last c after.head? = true := by
      rw [← hcut]
      simp
    refine ⟨(d :: piece) :: rest, hcs, ?_, ?_⟩
    · simpa using hrest
    · rw [prepend, if_neg hstarts, List.modifyHead_cons]

/-- One more character in front of a run: the cut behind it is made or not, the others stay. -/
theorem cutAtStarts_cons_iff :
    CutAtStarts (last :: c :: after) pieces ↔
      ∃ rest, CutAtStarts (c :: after) rest ∧ pieces = prepend last c after rest := by
  constructor
  -- The pieces behind the first character are cut where the whole is cut, but for the first cut.
  · intro h
    obtain ⟨rest, hwhole, hnonempty, rfl⟩ := h.exists_rest
    refine ⟨rest, ⟨hwhole, hnonempty, fun before l d further hrun => ?_⟩, rfl⟩
    have hcut := h.cuts (last :: before) l d further (congrArg (last :: ·) hrun)
    rwa [List.cons_append, cutBehind_prepend_cons hnonempty (by simp)] at hcut
  · rintro ⟨rest, h, rfl⟩
    refine ⟨flatten_prepend h.whole h.nonempty, nil_notMem_prepend h.nonempty, ?_⟩
    intro before l d further hrun
    cases before with
    | nil =>
      obtain ⟨rfl, rfl, rfl⟩ : last = l ∧ c = d ∧ after = further := by simpa using hrun
      exact cutBehind_prepend_singleton h.whole h.nonempty
    | cons first before =>
      obtain ⟨rfl, htail⟩ := List.cons.inj hrun
      rw [List.cons_append, cutBehind_prepend_cons h.nonempty (by simp)]
      exact h.cuts before l d further htail

end Prepend

/-! ## The words of a run -/

/-- The pieces of a run, found by looking one character ahead. -/
def wordsOfRun : List Char → List (List Char)
  | [] => []
  | [c] => [[c]]
  | last :: c :: after => prepend last c after (wordsOfRun (c :: after))

/-- There is one way to cut a run where words start. -/
theorem cutAtStarts_iff {run : List Char} {pieces : List (List Char)} :
    CutAtStarts run pieces ↔ pieces = wordsOfRun run := by
  induction run using wordsOfRun.induct generalizing pieces with
  | case1 =>
    constructor
    · exact fun h => eq_nil_of_flatten h.whole h.nonempty
    · rintro rfl
      exact ⟨rfl, List.not_mem_nil, by simp⟩
  | case2 c =>
    constructor
    · intro h
      obtain ⟨piece, rest, rfl, hcs⟩ := exists_first_piece h.whole h.nonempty
      obtain ⟨rfl, hrest⟩ := List.append_eq_nil_iff.mp hcs
      rw [eq_nil_of_flatten hrest (List.not_mem_of_not_mem_cons h.nonempty)]
      rfl
    · rintro rfl
      exact ⟨rfl, by simp [wordsOfRun], fun before _ _ _ hrun => by cases before <;> simp at hrun⟩
  | case3 last c after ih =>
    rw [cutAtStarts_cons_iff, wordsOfRun]
    constructor
    · rintro ⟨rest, hrest, rfl⟩
      rw [ih.mp hrest]
    · intro h
      exact ⟨wordsOfRun (c :: after), ih.mpr rfl, h⟩

/-! ## Splitting -/

theorem exists_first_word (c : Char) (cs : List Char) :
    ∃ word words, wordsOfRun (c :: cs) = (c :: word) :: words := by
  have hcut : CutAtStarts (c :: cs) (wordsOfRun (c :: cs)) := cutAtStarts_iff.mpr rfl
  obtain ⟨word, words, hwords, -⟩ := exists_first_piece hcut.whole hcut.nonempty
  exact ⟨word, words, hwords⟩

/-- The words of a run whose characters up to `last` are in the open word. The cut before `last` is
still to be made, if `last` is a capital in front of a small letter. -/
theorem splitFrom_of_run {last : Char} {earlier rest : List Char}
    (hrest : ∀ c ∈ rest, isAlphanumeric c = true) :
    splitFrom (last :: earlier) rest =
      if isUppercase last && rest.head?.any isLowercase && !earlier.isEmpty then
        earlier.reverse :: wordsOfRun (last :: rest)
      else (wordsOfRun (last :: rest)).modifyHead (earlier.reverse ++ ·) := by
  induction rest generalizing last earlier with
  | nil => simp [splitFrom, closed, wordsOfRun]
  | cons c rest ih =>
    obtain ⟨hc, hrest⟩ := List.forall_mem_cons.mp hrest
    obtain ⟨word, words, hwords⟩ := exists_first_word c rest
    rw [splitFrom, if_pos hc, wordsOfRun, prepend, List.head?_cons, Option.any_some]
    by_cases hcapital : (isUppercase c && (isLowercase last || isNumeric last)) = true
    · have hupper : isUppercase c = true := (Bool.and_eq_true_iff.mp hcapital).1
      have hstarts : startsWord last c rest.head? = true := by
        rw [startsWord, Bool.and_or_distrib_left, hcapital, Bool.true_or]
      -- A capital is no small letter, so no cut is to be made before `last`.
      rw [if_pos hcapital, ih hrest, hstarts, isLowercase_of_isUppercase hupper, hwords]
      simp [closed]
    · by_cases hacronym : (isLowercase c && isUppercase last && !earlier.isEmpty) = true
      · obtain ⟨⟨hlower, hlast⟩, hearlier⟩ : (isLowercase c = true ∧ isUppercase last = true) ∧
            earlier.isEmpty = false := by simpa using hacronym
        -- A small letter is no capital, so no cut is to be made before `c`.
        have hstarts : startsWord last c rest.head? = false := by
          rw [startsWord, isUppercase_of_isLowercase hlower, Bool.false_and]
        rw [if_neg hcapital, if_pos hacronym, ih hrest, hstarts,
          isUppercase_of_isLowercase hlower, hlast, hlower, hearlier, hwords]
        simp [closed, List.isEmpty_eq_false_iff.mp hearlier]
      · have hopen : (isUppercase last && isLowercase c && !earlier.isEmpty) = false := by
          rw [Bool.and_comm (isUppercase last)]
          simpa using hacronym
        have hstarts : startsWord last c rest.head? =
            (isUppercase c && rest.head?.any isLowercase) := by
          rw [startsWord, Bool.and_or_distrib_left, Bool.not_eq_true _ |>.mp hcapital,
            Bool.false_or]
        rw [if_neg hcapital, if_neg hacronym, ih hrest, hstarts, hopen, hwords]
        by_cases hnext : (isUppercase c && rest.head?.any isLowercase) = true
        · simp [hnext]
        · simp [hnext]

theorem runs_of_run {run : List Char} (hrun : ∀ c ∈ run, isAlphanumeric c = true) :
    runs run = if run.isEmpty then [] else [run] := by
  rw [runs, List.splitOnP_eq_singleton fun c hc => by rw [hrun c hc, Bool.not_true]]
  by_cases hempty : run.isEmpty = true
  · simp [hempty]
  · simp [hempty]

theorem runs_append_separator {run rest : List Char} {separator : Char}
    (hrun : ∀ c ∈ run, isAlphanumeric c = true) (hseparator : isAlphanumeric separator = false) :
    runs (run ++ separator :: rest) = runs run ++ runs rest := by
  have hinside : ∀ c ∈ run, (!isAlphanumeric c) = false := fun c hc => by
    rw [hrun c hc, Bool.not_true]
  rw [runs, List.splitOnP_append_cons_of_forall_mem hinside separator (by rw [hseparator]; rfl),
    ← List.singleton_append, List.filter_append, ← List.splitOnP_eq_singleton hinside]
  rfl

theorem splitFrom_run {run : List Char} (hrun : ∀ c ∈ run, isAlphanumeric c = true) :
    splitFrom [] run = (runs run).flatMap wordsOfRun := by
  rw [runs_of_run hrun]
  cases run with
  | nil => rfl
  | cons c cs =>
    obtain ⟨hc, hcs⟩ := List.forall_mem_cons.mp hrun
    obtain ⟨word, words, hwords⟩ := exists_first_word c cs
    rw [splitFrom, if_pos hc, splitFrom_of_run hcs, hwords]
    simp [hwords]

theorem splitFrom_eq_flatMap (run cs : List Char)
    (hrun : ∀ c ∈ run, isAlphanumeric c = true) :
    splitFrom [] (run ++ cs) = (runs (run ++ cs)).flatMap wordsOfRun := by
  -- `run` is the run that is open: an alphanumeric character lengthens it, another one closes it.
  induction cs generalizing run with
  | nil => rw [List.append_nil, splitFrom_run hrun]
  | cons c cs ih =>
    cases hc : isAlphanumeric c with
    | true =>
      have hlonger : ∀ d ∈ run ++ [c], isAlphanumeric d = true :=
        List.forall_mem_append.mpr ⟨hrun, by simpa using hc⟩
      rw [List.append_cons]
      exact ih (run ++ [c]) hlonger
    | false =>
      rw [splitFrom_append_separator hc, runs_append_separator hrun hc, List.flatMap_append,
        splitFrom_run hrun]
      exact congrArg _ (ih [] (List.forall_mem_nil _))

theorem flatten_splitFrom (word cs : List Char) :
    (splitFrom word cs).flatten = word.reverse ++ cs.filter isAlphanumeric := by
  have hclosed (word : List Char) : (closed word).flatten = word.reverse := by
    rw [closed]
    split
    · simp_all
    · simp
  -- The open word is what the characters read so far still have to give.
  induction cs generalizing word with
  | nil => simp [splitFrom, hclosed]
  | cons c cs ih =>
    cases hc : isAlphanumeric c with
    | false => simp [splitFrom, hc, hclosed, ih]
    | true =>
      cases word with
      | nil => simp [splitFrom, hc, ih]
      | cons last earlier =>
        rw [splitFrom, if_pos hc, List.filter_cons_of_pos hc]
        split
        · simp [hclosed, ih]
        · split
          · simp [hclosed, ih]
          · simp [ih]

theorem forall₂_cutAtStarts_iff {cs : List (List Char)} {pieces : List (List (List Char))} :
    List.Forall₂ CutAtStarts cs pieces ↔ pieces = cs.map wordsOfRun := by
  have hflip : CutAtStarts = fun run pieces => wordsOfRun run = pieces := by
    funext run pieces
    exact propext (cutAtStarts_iff.trans eq_comm)
  rw [hflip, ← List.forall₂_map_left_iff (R := Eq), List.forall₂_eq_eq_eq]
  exact eq_comm

/-- The words of a raw name are the pieces of its runs, cut where words start; no word is empty, and
together they are the alphanumeric characters of the raw name in their order. -/
theorem split_cut_at_starts (raw : String) :
    (∀ words, split raw = words ↔ ∃ pieces, List.Forall₂ CutAtStarts (runs raw.toList) pieces ∧
      words = pieces.flatten.map String.ofList) ∧
    (∀ word ∈ split raw, word ≠ "") ∧
    String.join (split raw) = String.ofList (raw.toList.filter isAlphanumeric) := by
  refine ⟨fun words => ?_, fun word hword => ?_, ?_⟩
  · have hsplit : split raw = ((runs raw.toList).map wordsOfRun).flatten.map String.ofList := by
      rw [split, ← List.flatMap_def]
      exact congrArg _ (splitFrom_eq_flatMap [] raw.toList (List.forall_mem_nil _))
    rw [hsplit]
    constructor
    · rintro rfl
      exact ⟨_, forall₂_cutAtStarts_iff.mpr rfl, rfl⟩
    · rintro ⟨pieces, hpieces, rfl⟩
      rw [forall₂_cutAtStarts_iff.mp hpieces]
  · rintro rfl
    exact (isWord_of_mem_split hword).1 rfl
  · have hall := flatten_splitFrom [] raw.toList
    apply String.toList_injective
    rw [String.toList_join, split, List.flatMap_map, String.toList_ofList]
    simpa [List.flatMap_def] using hall

example : split "HTTPServer2Go!" = ["HTTP", "Server2", "Go"] := by decide +kernel

end JsonClasses.Words
