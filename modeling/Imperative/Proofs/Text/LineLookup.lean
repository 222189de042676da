import Mathlib.Tactic.Lemma
import Imperative.Text.Lines

/-!
Looking lines up undoes joining them.

Every text is lines that end with a line feed each and then a tail, none of which has a line feed of
its own. Splitting gives these back, so each of them is found under its number.
-/

namespace Imperative.Text

/-- There is no line feed in the text. -/
def Feedless (s : String) : Prop := '\n' ∉ s.toList

/-- The lines, a line feed after each, and then the tail. -/
def joined (ls : List String) (tail : String) : String :=
  String.join (ls.map (· ++ "\n")) ++ tail

/-- The line is the text and at most one carriage return, which is there if the line has one. -/
def Bare (line text : String) : Prop :=
  line = text ++ "\r" ∨ line = text ∧ line.toList.getLast? ≠ some '\r'

/-! ### Splitting -/

variable {c : Char} {l cs tail : List Char} {ls : List (List Char)}

@[simp] lemma splitLines_nil : splitLines [] = ([], []) := rfl

@[simp] lemma splitLines_feed (cs : List Char) :
    splitLines ('\n' :: cs) = ([] :: (splitLines cs).1, (splitLines cs).2) := by
  simp [splitLines]

lemma splitLines_of_feedless (h : '\n' ∉ cs) : splitLines cs = ([], cs) := by
  induction cs with
  | nil => rfl
  | cons c cs ih =>
    have hc : c ≠ '\n' := (List.ne_of_not_mem_cons h).symm
    simp [splitLines, hc, ih (List.not_mem_of_not_mem_cons h)]

lemma splitLines_line (h : '\n' ∉ l) (cs : List Char) :
    splitLines (l ++ '\n' :: cs) = (l :: (splitLines cs).1, (splitLines cs).2) := by
  induction l with
  | nil => simp
  | cons c l ih =>
    have hc : c ≠ '\n' := (List.ne_of_not_mem_cons h).symm
    simp [splitLines, hc, ih (List.not_mem_of_not_mem_cons h)]

/-- **Splitting undoes joining.** -/
lemma splitLines_joined (hls : ∀ l ∈ ls, '\n' ∉ l) (htail : '\n' ∉ tail) :
    splitLines (ls.flatMap (· ++ ['\n']) ++ tail) = (ls, tail) := by
  induction ls with
  | nil => simpa using splitLines_of_feedless htail
  | cons l ls ih =>
    obtain ⟨hl, hls⟩ := List.forall_mem_cons.1 hls
    have hline : (l :: ls).flatMap (· ++ ['\n']) ++ tail =
        l ++ '\n' :: (ls.flatMap (· ++ ['\n']) ++ tail) := by simp
    rw [hline, splitLines_line hl, ih hls]

/-- **Joining undoes splitting.** -/
lemma joined_splitLines (cs : List Char) : (∀ l ∈ (splitLines cs).1, '\n' ∉ l) ∧
    '\n' ∉ (splitLines cs).2 ∧
      (splitLines cs).1.flatMap (· ++ ['\n']) ++ (splitLines cs).2 = cs := by
  induction cs with
  | nil => simp
  | cons c cs ih =>
    obtain ⟨hls, htail, hcs⟩ := ih
    by_cases hc : c = '\n'
    · subst hc
      exact ⟨by simpa using hls, by simpa using htail, by simpa using hcs⟩
    · have hne : '\n' ≠ c := Ne.symm hc
      rcases hsplit : splitLines cs with ⟨ls, tail⟩
      rw [hsplit] at hls htail hcs
      -- The character goes to the front of the first line, or of the tail if no line ends.
      cases ls with
      | nil => simp_all [splitLines]
      | cons l ls => simp_all [splitLines]

/-! ### Looking up -/

/-- The line without a carriage return at its end. -/
def stripped (line : String) : String := String.ofList (dropReturn line.toList)

lemma bare_stripped (line : String) : Bare line (stripped line) := by
  unfold stripped dropReturn
  split
  · next hlast =>
    obtain ⟨cs, hcs⟩ := List.getLast?_eq_some_iff.1 hlast
    refine .inl ?_
    rw [hcs, List.dropLast_concat, ← String.toList_inj, hcs]
    simp
  · next hlast => exact .inr ⟨by simp, hlast⟩

lemma toList_joined (ls : List String) (tail : String) :
    (joined ls tail).toList = (ls.map String.toList).flatMap (· ++ ['\n']) ++ tail.toList := by
  simp [joined, List.flatMap_map]

/-- Every text is lines that end and a tail. -/
lemma exists_joined (source : String) : ∃ ls tail,
    (∀ l ∈ ls, Feedless l) ∧ Feedless tail ∧ joined ls tail = source := by
  obtain ⟨hls, htail, hcs⟩ := joined_splitLines source.toList
  refine ⟨(splitLines source.toList).1.map String.ofList, String.ofList (splitLines source.toList).2,
    List.forall_mem_map.2 fun l hl => ?_, ?_, ?_⟩
  · simpa [Feedless] using hls l hl
  · simpa [Feedless] using htail
  · rw [← String.toList_inj, toList_joined]
    simpa [Function.comp_def] using hcs

lemma lines_joined {ls : List String} {tail : String} (hls : ∀ l ∈ ls, Feedless l)
    (htail : Feedless tail) : (lines (joined ls tail).toList).map String.ofList =
      ls.map stripped ++ if tail = "" then [] else [tail] := by
  have hsplit : splitLines (joined ls tail).toList = (ls.map String.toList, tail.toList) := by
    rw [toList_joined]
    exact splitLines_joined (List.forall_mem_map.2 hls) htail
  have hempty : tail.toList = [] ↔ tail = "" := by simp
  simp only [lines, hsplit, hempty]
  split <;> simp [stripped, Function.comp_def]

lemma sourceLine_joined {ls : List String} {tail : String} (hls : ∀ l ∈ ls, Feedless l)
    (htail : Feedless tail) (n : Nat) : sourceLine (joined ls tail) (n + 1) =
      (ls.map stripped ++ if tail = "" then [] else [tail])[n]? := by
  rw [← lines_joined hls htail, List.getElem?_map]
  rfl

/-- **Lines are found under their numbers.** Every text is lines that end with a line feed and a
tail. Counted from one, each line that ends is found without its end, and one carriage return is
part of that; the tail comes next, unless it is empty, and keeps a carriage return. Nothing is found
under zero or after the tail. -/
theorem lines_are_found :
    (∀ source, ∃ ls tail, (∀ l ∈ ls, Feedless l) ∧ Feedless tail ∧ joined ls tail = source) ∧
    ∀ ls tail, (∀ l ∈ ls, Feedless l) → Feedless tail →
      (∀ i l, ls[i]? = some l →
        ∃ text, sourceLine (joined ls tail) (i + 1) = some text ∧ Bare l text) ∧
      sourceLine (joined ls tail) (ls.length + 1) = (if tail = "" then none else some tail) ∧
      sourceLine (joined ls tail) 0 = none ∧
      ∀ n, ls.length + 1 < n → sourceLine (joined ls tail) n = none := by
  refine ⟨exists_joined, fun ls tail hls htail => ?_⟩
  have hfind := sourceLine_joined hls htail
  refine ⟨fun i l hl => ⟨stripped l, ?_, bare_stripped l⟩, ?_, rfl, fun n hn => ?_⟩
  · obtain ⟨hi, -⟩ := List.getElem?_eq_some_iff.1 hl
    rw [hfind, List.getElem?_append_left (by simpa using hi), List.getElem?_map, hl]
    rfl
  · rw [hfind, List.getElem?_append_right (by simp)]
    split <;> simp
  · obtain ⟨k, rfl⟩ : ∃ k, n = k + 1 := ⟨n - 1, by omega⟩
    rw [hfind, List.getElem?_eq_none]
    split <;> simp <;> omega

/-- Of two carriage returns before a line feed one is left, and one at the end of the text stays. -/
theorem lines_are_found_returning :
    sourceLine (joined ["a\r\r", ""] "b\r") 1 = some "a\r" ∧
    (∃ text, sourceLine (joined ["a\r\r", ""] "b\r") 2 = some text ∧ Bare "" text) ∧
    sourceLine (joined ["a\r\r", ""] "b\r") 3 = some "b\r" ∧
    sourceLine (joined ["a\r\r", ""] "b\r") 4 = none := by
  have hls : ∀ l ∈ ["a\r\r", ""], Feedless l := by
    simp [Feedless]
  have htail : Feedless "b\r" := by
    simp [Feedless]
  obtain ⟨hended, hlast, -, hafter⟩ := lines_are_found.2 ["a\r\r", ""] "b\r" hls htail
  refine ⟨?_, hended 1 _ rfl, hlast, hafter 4 (by decide)⟩
  obtain ⟨text, htext, hbare | ⟨-, hplain⟩⟩ := hended 0 _ rfl
  · have heq : "a\r" ++ "\r" = text ++ "\r" := hbare
    rw [htext, (String.append_left_inj "\r").1 heq]
  · exact absurd rfl hplain

end Imperative.Text
