import Mathlib.Tactic.Common
import SingleFlight.Proofs.Agreement
import SingleFlight.Proofs.AsciiText
import SingleFlight.Proofs.Precedence
import SingleFlight.Proofs.Utf8Text
import SingleFlight.Status.Extraction

/-!
What is taken from the end of an output. The end that is looked at may start inside a line. Main statement: the last
line that says anything is the one that is heard, and what is left of a cut line is heard too if no whole line of the
end says anything.
-/

namespace SingleFlight.Status

open Files Text

section Lines

def lineFeed : Byte := 10

/-- A line of a content, with what stands before it and what stands after it. -/
structure IsLine (content before line after : List Byte) : Prop where
  whole : content = before ++ line ++ after
  starts : before = [] ∨ before.getLast? = some lineFeed
  ends : after = [] ∨ after.head? = some lineFeed
  clean : lineFeed ∉ line

variable {content before line after cut window last : List Byte}

theorem IsLine.length_le (is : IsLine content before line after) : before.length ≤ content.length := by
  rw [is.whole, List.append_assoc, List.length_append]
  exact Nat.le_add_right _ _

theorem cut_at_last_feed (found : lineFeed ∈ content) :
    ∃ before last, content = before ++ lineFeed :: last ∧ lineFeed ∉ last := by
  obtain ⟨later, earlier, turned, clean⟩ := List.eq_append_cons_of_mem (List.mem_reverse.mpr found)
  refine ⟨earlier.reverse, later.reverse, ?_, by simpa using clean⟩
  rw [← List.reverse_reverse content, turned]
  simp

/-- A line feed is the last one of a content or stands before the last one. -/
theorem feed_before_last {early late : List Byte} (clean : lineFeed ∉ last)
    (same : early ++ lineFeed :: late = before ++ lineFeed :: last) : (early = before ∧ late = last) ∨
      ∃ between, before = early ++ lineFeed :: between ∧ late = between ++ lineFeed :: last := by
  obtain ⟨between, whole, rest⟩ | ⟨between, whole, rest⟩ := List.append_eq_append_iff.mp same
  · cases between with
    | nil => exact .inl ⟨by simpa using whole.symm, (List.cons.inj rest).2⟩
    | cons b between =>
      obtain ⟨rfl, later⟩ := List.cons.inj rest
      exact .inr ⟨between, whole, later⟩
  · cases between with
    | nil => exact .inl ⟨by simpa using whole, (List.cons.inj rest).2.symm⟩
    | cons b between =>
      exact absurd ((List.cons.inj rest).2 ▸ List.mem_append_right between List.mem_cons_self) clean

/-- A content without a line feed is its only line. -/
theorem isLine_of_clean (clean : lineFeed ∉ content) :
    IsLine content before line after ↔ before = [] ∧ line = content ∧ after = [] := by
  constructor
  · intro is
    have whole := is.whole
    have noneBefore : before = [] :=
      is.starts.resolve_right fun feed => clean (by simp [whole, List.mem_of_getLast? feed])
    have noneAfter : after = [] := is.ends.resolve_right fun feed => clean (by simp [whole, List.mem_of_head? feed])
    simp [whole, noneBefore, noneAfter]
  · rintro ⟨rfl, rfl, rfl⟩
    exact ⟨by simp, .inl rfl, .inl rfl, clean⟩

/-- The lines of a content are the one after its last line feed and those before it. -/
theorem isLine_append (clean : lineFeed ∉ last) : IsLine (cut ++ lineFeed :: last) before line after ↔
    (before = cut ++ [lineFeed] ∧ line = last ∧ after = []) ∨
      ∃ rest, after = rest ++ lineFeed :: last ∧ IsLine cut before line rest := by
  constructor
  · intro is
    have whole := is.whole
    obtain rfl | feed := is.ends
    · obtain rfl | feed := is.starts
      · rw [List.nil_append, List.append_nil] at whole
        exact absurd (whole ▸ List.mem_append_right cut List.mem_cons_self) is.clean
      · obtain ⟨earlier, rfl⟩ := List.getLast?_eq_some_iff.mp feed
        rw [List.append_nil, List.append_assoc] at whole
        obtain ⟨rfl, rfl⟩ | ⟨between, _, late⟩ := feed_before_last clean whole.symm
        · exact .inl ⟨rfl, rfl, rfl⟩
        · replace late : line = between ++ lineFeed :: last := late
          exact absurd (late ▸ List.mem_append_right between List.mem_cons_self) is.clean
    · obtain ⟨later, rfl⟩ := List.head?_eq_some_iff.mp feed
      refine .inr ?_
      obtain ⟨rfl, rfl⟩ | ⟨between, rfl, rfl⟩ := feed_before_last clean whole.symm
      · exact ⟨[], rfl, by simp, is.starts, .inl rfl, is.clean⟩
      · exact ⟨lineFeed :: between, rfl, by simp, is.starts, .inr rfl, is.clean⟩
  · rintro (⟨rfl, rfl, rfl⟩ | ⟨rest, rfl, is⟩)
    · exact ⟨by simp, .inr (by simp), .inl rfl, clean⟩
    · refine ⟨by simp [is.whole], is.starts, .inr ?_, is.clean⟩
      obtain rfl | feed := is.ends
      · rfl
      · simp [List.head?_append, feed]

theorem exists_last_line (content : List Byte) : ∃ before last, IsLine content before last [] := by
  by_cases feed : lineFeed ∈ content
  · obtain ⟨before, last, rfl, clean⟩ := cut_at_last_feed feed
    exact ⟨_, last, (isLine_append clean).mpr (.inl ⟨rfl, rfl, rfl⟩)⟩
  · exact ⟨[], content, (isLine_of_clean feed).mpr ⟨rfl, rfl, rfl⟩⟩

/-- The lines of the end of a content are its own lines, but for the first one if it was cut. -/
theorem isLine_window : IsLine (cut ++ window) (cut ++ before) line after ↔
    IsLine window before line after ∧ (before = [] → cut = [] ∨ cut.getLast? = some lineFeed) := by
  constructor
  · intro is
    refine ⟨⟨?_, ?_, is.ends, is.clean⟩, ?_⟩
    · have whole := is.whole
      simpa using whole
    · cases held : before.getLast? with
      | none => exact .inl (List.getLast?_eq_none_iff.mp held)
      | some b =>
        have starts := is.starts
        rw [List.getLast?_append, held, List.append_eq_nil_iff] at starts
        exact starts.imp And.right id
    · rintro rfl
      simpa using is.starts
  · rintro ⟨is, uncut⟩
    refine ⟨by simp [is.whole], ?_, is.ends, is.clean⟩
    obtain rfl | feed := is.starts
    · simpa using uncut rfl
    · exact .inr (by simp [List.getLast?_append, feed])

theorem IsLine.past_cut (is : IsLine (cut ++ window) before line after) (late : cut.length ≤ before.length) :
    ∃ rest, cut ++ rest = before :=
  List.prefix_of_prefix_length_le (List.prefix_append cut window) ⟨line ++ after, by simp [is.whole]⟩ late

/-- No line that starts at a position or after it says anything. -/
def SilentFrom (content : List Byte) (position : Nat) : Prop :=
  ∀ before line after, IsLine content before line after → position ≤ before.length →
    structuredLine? (Utf8.lossy line) = none

/-- A line that starts behind the start of the end of a content is a line of that end. -/
theorem silentFrom_window {position : Nat} (positive : 0 < position) :
    SilentFrom (cut ++ window) (cut.length + position) ↔ SilentFrom window position := by
  constructor
  · intro silent before line after is late
    refine silent _ _ _ (isLine_window.mpr ⟨is, ?_⟩) (by rw [List.length_append]; omega)
    rintro rfl
    exact absurd late (Nat.not_le.mpr positive)
  · intro silent before line after is late
    obtain ⟨rest, rfl⟩ := is.past_cut (by omega)
    rw [List.length_append] at late
    exact silent _ _ _ (isLine_window.mp is).1 (Nat.le_of_add_le_add_left late)

end Lines

section Said

theorem trimBoth_concat {kind : Char → Bool} {c : Char} (dropped : kind c = true) (chars : List Char) :
    trimBoth kind (chars ++ [c]) = trimBoth kind chars := by
  rw [trimBoth, trimBoth, List.dropWhile_append]
  split
  next all =>
    rw [List.isEmpty_iff.mp all]
    simp [dropped]
  next => simp [dropEndWhile, dropped]

/-- A carriage return at the end of a line is no part of what the line says. -/
theorem structuredLine?_withoutReturn (line : List Char) : structuredLine? (withoutReturn line) = structuredLine? line := by
  unfold withoutReturn
  split
  next ended =>
    obtain ⟨rest, rfl⟩ := List.getLast?_eq_some_iff.mp ended
    have same : trimChars (rest ++ ['\r']) = trimChars rest := trimBoth_concat rfl rest
    rw [List.dropLast_concat, structuredLine?, structuredLine?, same]
  next => rfl

/-- What the last of the lines says that says anything. -/
def saidLast? (content : List Byte) : Option Findings := (lines (Utf8.lossy content)).reverse.findSome? structuredLine?

/-- Neither the carriage returns nor an empty end of a text make a difference to what its lines say. -/
theorem findSome?_lines (chars : List Char) :
    (lines chars).reverse.findSome? structuredLine? = (split (· = '\n') chars).reverse.findSome? structuredLine? := by
  unfold lines
  obtain none | ⟨pieces, last, some⟩ := List.eq_nil_or_concat (split (· = '\n') chars)
  · rw [none]
    rfl
  · have ends :
        ([last].filter (fun last => !last.isEmpty)).reverse.findSome? structuredLine? = structuredLine? last := by
      cases last with
      | nil => rfl
      | cons c rest => simp
    rw [some, List.concat_eq_append]
    dsimp only
    rw [List.dropLast_concat, List.getLast?_concat, List.reverse_append, List.reverse_append, List.findSome?_append,
      List.findSome?_append, ← List.map_reverse, List.findSome?_map, Option.toList_some, ends]
    simp [Function.comp_def, structuredLine?_withoutReturn]

variable {content before line after last : List Byte} {found : Findings}

theorem saidLast?_of_clean (clean : lineFeed ∉ content) : saidLast? content = structuredLine? (Utf8.lossy content) := by
  have whole : split (· = '\n') (Utf8.lossy content) = [Utf8.lossy content] :=
    split_of_clean _ fun c inside => decide_eq_false fun feed => Utf8.feed_notMem_lossy clean (feed ▸ inside)
  rw [saidLast?, findSome?_lines, whole]
  simp

theorem saidLast?_append (clean : lineFeed ∉ last) :
    saidLast? (before ++ lineFeed :: last) = (structuredLine? (Utf8.lossy last)).or (saidLast? before) := by
  rw [saidLast?, findSome?_lines, lineFeed, Utf8.lossy_append, split_append _ (by simp), List.reverse_append,
    List.findSome?_append, ← findSome?_lines, ← findSome?_lines]
  rw [← saidLast?_of_clean clean]
  rfl

/-- The recursion is on the end of the content: its last line is heard unless it says nothing. -/
theorem saidLast?_eq_some (content : List Byte) : saidLast? content = some found ↔
    ∃ before line after, IsLine content before line after ∧ structuredLine? (Utf8.lossy line) = some found ∧
      SilentFrom content (before.length + 1) := by
  by_cases feed : lineFeed ∈ content
  · obtain ⟨earlier, last, whole, clean⟩ := cut_at_last_feed feed
    have shorter : earlier.length < content.length := by simp [whole]
    rw [whole, saidLast?_append clean]
    cases said : structuredLine? (Utf8.lossy last) with
    | some heard =>
      have ending : IsLine (earlier ++ lineFeed :: last) (earlier ++ [lineFeed]) last [] :=
        (isLine_append clean).mpr (.inl ⟨rfl, rfl, rfl⟩)
      constructor
      · rintro ⟨⟩
        refine ⟨_, _, _, ending, said, ?_⟩
        intro before line after is late
        rw [List.length_append, List.length_singleton] at late
        obtain ⟨rfl, _⟩ | ⟨rest, _, is⟩ := (isLine_append clean).mp is
        · rw [List.length_append, List.length_singleton] at late
          omega
        · have := is.length_le
          omega
      · rintro ⟨before, line, after, is, told, silent⟩
        obtain ⟨_, rfl, _⟩ | ⟨rest, _, is⟩ := (isLine_append clean).mp is
        · rw [← told, said, Option.some_or]
        · have late : before.length + 1 ≤ (earlier ++ [lineFeed]).length := by simpa using is.length_le
          rw [silent _ _ _ ending late] at said
          cases said
    | none =>
      rw [Option.none_or, saidLast?_eq_some earlier]
      constructor
      · rintro ⟨before, line, rest, is, told, silent⟩
        refine ⟨before, line, _, (isLine_append clean).mpr (.inr ⟨rest, rfl, is⟩), told, ?_⟩
        intro before line after is late
        obtain ⟨_, rfl, _⟩ | ⟨rest, _, is⟩ := (isLine_append clean).mp is
        · exact said
        · exact silent _ _ _ is late
      · rintro ⟨before, line, after, is, told, silent⟩
        obtain ⟨_, rfl, _⟩ | ⟨rest, _, is⟩ := (isLine_append clean).mp is
        · rw [said] at told
          cases told
        · exact ⟨before, line, rest, is, told, fun _ _ rest is late =>
            silent _ _ _ ((isLine_append clean).mpr (.inr ⟨rest, rfl, is⟩)) late⟩
  · rw [saidLast?_of_clean feed]
    constructor
    · intro said
      refine ⟨[], content, [], (isLine_of_clean feed).mpr ⟨rfl, rfl, rfl⟩, said, ?_⟩
      intro before line after is late
      rw [((isLine_of_clean feed).mp is).1] at late
      cases late
    · rintro ⟨before, line, after, is, said, _⟩
      rw [← ((isLine_of_clean feed).mp is).2.1, said]
termination_by content.length
decreasing_by exact shorter

/-- What is heard of the end of a content. A line of the end is one of the content, unless the end starts inside it. -/
theorem saidLast?_window (found : Findings) (cut window : List Byte) : saidLast? window = some found ↔
    (∃ before line after, IsLine (cut ++ window) before line after ∧ cut.length ≤ before.length ∧
      structuredLine? (Utf8.lossy line) = some found ∧ SilentFrom (cut ++ window) (before.length + 1)) ∨
    (SilentFrom (cut ++ window) cut.length ∧ ∃ before start rest after,
      IsLine (cut ++ window) before (start ++ rest) after ∧ start ≠ [] ∧ cut.length = before.length + start.length ∧
        structuredLine? (Utf8.lossy rest) = some found) := by
  rw [saidLast?_eq_some]
  constructor
  · rintro ⟨before, line, after, is, told, silent⟩
    by_cases uncut : before = [] → cut = [] ∨ cut.getLast? = some lineFeed
    · refine .inl ⟨cut ++ before, line, after, isLine_window.mpr ⟨is, uncut⟩, by simp, told, ?_⟩
      rw [List.length_append, Nat.add_assoc]
      exact (silentFrom_window (Nat.succ_pos _)).mpr silent
    · rw [Classical.not_imp, not_or] at uncut
      obtain ⟨rfl, filled, unfed⟩ := uncut
      obtain ⟨before, start, ending⟩ := exists_last_line cut
      have whole : cut = before ++ start := by simpa using ending.whole
      refine .inr ⟨?_, before, start, line, after, ?_, ?_, by simp [whole], told⟩
      · intro before' line' after' is' late
        obtain ⟨rest, rfl⟩ := is'.past_cut late
        obtain ⟨is', starts⟩ := isLine_window.mp is'
        refine silent _ _ _ is' (List.length_pos_iff.mpr fun empty => ?_)
        exact (starts empty).elim filled unfed
      · exact ⟨by simp [whole, is.whole], ending.starts, is.ends,
          fun feed => (List.mem_append.mp feed).elim ending.clean is.clean⟩
      · rintro rfl
        rw [List.append_nil] at whole
        exact (whole ▸ ending.starts).elim filled unfed
  · rintro (⟨before, line, after, is, late, told, silent⟩ | ⟨silent, before, start, rest, after, is, _, size, told⟩)
    · obtain ⟨rest, rfl⟩ := is.past_cut late
      rw [List.length_append, Nat.add_assoc, silentFrom_window (Nat.succ_pos _)] at silent
      exact ⟨rest, line, after, (isLine_window.mp is).1, told, silent⟩
    · have whole := is.whole
      rw [List.append_assoc, List.append_assoc, ← List.append_assoc before] at whole
      obtain ⟨rfl, rfl⟩ := List.append_inj whole (by simpa using size)
      have later : SilentFrom (before ++ start ++ (rest ++ after)) ((before ++ start).length + 1) :=
        fun _ _ _ is late => silent _ _ _ is (Nat.le_of_succ_le late)
      refine ⟨[], rest, after, ?_, told, (silentFrom_window Nat.one_pos).mp later⟩
      exact ⟨rfl, .inl rfl, is.ends, fun feed => is.clean (List.mem_append_right start feed)⟩

end Said

/-- The output is heard on what the last of its lines says that stands wholly in its last 64 KiB and says anything. If none
does, and the 64 KiB start inside a line, then what is left of that line is heard as if it were a line. -/
theorem output_heard_iff (tree : Tree) (directory : Path) (found : Findings) :
    Source.output.read? tree directory = some found ↔ ∃ content, tree.read (directory.join "output.log") = .ok content ∧
      ((∃ before line after, IsLine content before line after ∧ content.length ≤ before.length + 65536 ∧
          structuredLine? (Utf8.lossy line) = some found ∧ SilentFrom content (before.length + 1)) ∨
        (SilentFrom content (content.length - 65536) ∧ ∃ before start rest after,
          IsLine content before (start ++ rest) after ∧ start ≠ [] ∧
            content.length = before.length + start.length + 65536 ∧ structuredLine? (Utf8.lossy rest) = some found)) := by
  have read : Source.output.read? tree directory = some found ↔
      ∃ content, tree.read (directory.join "output.log") = .ok content ∧ lastStructuredLine? content = some found :=
    read?_eq_some
  rw [read]
  refine exists_congr fun content => and_congr_right fun _ => ?_
  have heard := saidLast?_window found (content.take (content.length - 65536)) (content.drop (content.length - 65536))
  rw [List.take_append_drop, List.length_take, Nat.min_eq_left (Nat.sub_le _ _)] at heard
  refine Iff.trans heard (or_congr ?_ (and_congr_right fun _ => ?_))
  · simp only [Nat.sub_le_iff_le_add]
  · refine exists₄_congr fun before start rest after => ?_
    refine and_congr_right fun _ => and_congr_right fun filled => and_congr_left fun _ => ?_
    have := List.length_pos_iff.mpr filled
    omega

/-- An output whose first line is one byte too far from its end to be looked at, and whose other lines are empty. -/
def cutOutput : List Byte :=
  Utf8.ofString "x\x7b\"status\":\"failure\"\x7d" ++ List.replicate 65516 lineFeed

theorem isLine_padded {first before line after : List Byte} {count : Nat} (clean : lineFeed ∉ first)
    (is : IsLine (first ++ List.replicate count lineFeed) before line after) : before = [] ∨ line = [] := by
  induction count generalizing after with
  | zero =>
    rw [List.replicate_zero, List.append_nil] at is
    exact .inl ((isLine_of_clean clean).mp is).1
  | succ count ih =>
    rw [List.replicate_succ', ← List.append_assoc] at is
    obtain ⟨_, empty, _⟩ | ⟨rest, _, is⟩ := (isLine_append List.not_mem_nil).mp is
    · exact .inr empty
    · exact ih is

theorem output_heard_cut :
    Source.output.read? (Tree.empty.put ["output.log", "work"] (.file cutOutput)) (.ofText "/work") =
      some { Findings.nothing with status := some "failure" } ∧
    SilentFrom cutOutput (cutOutput.length - 65536) := by
  have size : cutOutput.length = 65537 := by
    rw [cutOutput, List.length_append, List.length_replicate]
    rfl
  have silent : SilentFrom cutOutput (cutOutput.length - 65536) := by
    rw [size]
    intro before line after is late
    obtain rfl | rfl := isLine_padded (by decide) is
    · cases late
    · rw [Utf8.lossy, Utf8.decode_nil]
      rfl
  have read : (Tree.empty.put ["output.log", "work"] (.file cutOutput)).read
      (Path.join (.ofText "/work") "output.log") =
      .ok cutOutput := by
    have leads := (Ledger.leads_work (Tree.empty.put ["output.log", "work"] (.file cutOutput)) rfl rfl).1
    have plain : Tree.IsPlain "output.log" := ⟨by decide, by decide, by decide⟩
    have entry : (Tree.empty.put ["output.log", "work"] (.file cutOutput)).locateEntry
        (Path.join (.ofText "/work") "output.log") =
        .ok (some ["output.log", "work"]) :=
      (Tree.locateEntry_join plain (by decide)).mpr ⟨⟨by decide, by decide⟩, _, leads, rfl⟩
    exact Ledger.FileStore.read_of_entry entry rfl
  refine ⟨(output_heard_iff _ _ _).mpr ⟨cutOutput, read, .inr ⟨silent, [], Utf8.ofString "x",
    Utf8.ofString "\x7b\"status\":\"failure\"\x7d", List.replicate 65516 lineFeed, ?_, by decide, ?_, ?_⟩⟩, silent⟩
  · exact ⟨rfl, .inl rfl, .inr rfl, by decide⟩
  · rw [size]
    rfl
  · decide +kernel

end SingleFlight.Status
