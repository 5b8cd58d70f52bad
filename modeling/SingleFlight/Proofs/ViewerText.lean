import SingleFlight.Proofs.AddressText
import SingleFlight.Proofs.FormText
import SingleFlight.Web.Viewer

/-!
Viewer addresses have one form. The named values of a viewer address are sorted and its other parts are fixed, so that
the viewer address of what is read from it is that address again. Main statement: `canonicalize_canonicalize`.
-/

namespace SingleFlight.Web

open Text

namespace Form

theorem isAtMost_iff (first second : Pair) : isAtMost first second = true ↔
    first.1 < second.1 ∨ first.1 = second.1 ∧ first.2 ≤ second.2 := by
  simp [isAtMost]

theorem isAtMost_trans (first second third : Pair) (before : isAtMost first second = true)
    (after : isAtMost second third = true) : isAtMost first third = true := by
  rw [isAtMost_iff] at before after ⊢
  obtain less | ⟨same, atMost⟩ := before
  · obtain lessAgain | ⟨same, _⟩ := after
    · exact .inl (String.lt_trans less lessAgain)
    · exact .inl (same ▸ less)
  · obtain less | ⟨sameAgain, atMostAgain⟩ := after
    · exact .inl (same ▸ less)
    · exact .inr ⟨same.trans sameAgain, String.le_trans atMost atMostAgain⟩

theorem isAtMost_total (first second : Pair) : (isAtMost first second || isAtMost second first) = true := by
  rw [Bool.or_eq_true, isAtMost_iff, isAtMost_iff]
  by_cases less : first.1 < second.1
  · exact .inl (.inl less)
  by_cases greater : second.1 < first.1
  · exact .inr (.inl greater)
  have same : first.1 = second.1 := String.le_antisymm (String.not_lt.mp greater) (String.not_lt.mp less)
  obtain atMost | atLeast := String.le_total first.2 second.2
  · exact .inl (.inr ⟨same, atMost⟩)
  · exact .inr (.inr ⟨same.symm, atLeast⟩)

end Form

namespace Viewer

open Form Address

variable {address other : Address}

theorem pairs_ne_nil (given : List Pair) : Viewer.pairs given ≠ [] := by
  simp [Viewer.pairs, fixedPairs]

/-- Named values that have been put in order once are in order. -/
theorem pairs_pairs (given : List Pair) : Viewer.pairs (Viewer.pairs given) = Viewer.pairs given := by
  let ordered := (given.filter fun pair => !isFixed pair).mergeSort isAtMost
  have kept : ordered.filter (fun pair => !isFixed pair) = ordered := by
    rw [List.filter_eq_self]
    intro pair among
    exact (List.mem_filter.mp (List.mem_mergeSort.mp among)).2
  have dropped : fixedPairs.filter (fun pair => !isFixed pair) = [] := by decide
  have sorted : ordered.mergeSort isAtMost = ordered :=
    List.mergeSort_of_pairwise (List.pairwise_mergeSort isAtMost_trans isAtMost_total _)
  change ((ordered ++ fixedPairs).filter fun pair => !isFixed pair).mergeSort isAtMost ++ fixedPairs = ordered ++ fixedPairs
  rw [List.filter_append, kept, dropped, List.append_nil, sorted]

theorem viewer_wellFormed (wellFormed : address.WellFormed) : (viewer address).WellFormed := by
  refine ⟨wellFormed.user, wellFormed.password, wellFormed.host, ?_⟩
  intro same
  have kept := (Option.filter_eq_some_iff.mp same).2
  simp only [ne_eq, decide_eq_true_eq] at kept
  exact kept rfl

theorem pairs_viewer (address : Address) : (viewer address).pairs = Viewer.pairs address.pairs := by
  change Form.pairs (String.ofList (render (Viewer.pairs address.pairs))).toList = _
  rw [String.toList_ofList, pairs_render (pairs_ne_nil _)]

/-- The viewer address of a viewer address is that address. -/
theorem viewer_viewer (address : Address) : viewer (viewer address) = viewer address := by
  have port : (viewer address).port.filter (· ≠ Scheme.https.defaultPort) = (viewer address).port := by
    change (address.port.filter _).filter _ = address.port.filter _
    rw [Option.filter_filter]
    simp
  rw [viewer, pairs_viewer, pairs_pairs, withScheme, port]
  rfl

/-- The query of a viewer address. -/
def viewerQuery (address : Address) : List Char := render (Viewer.pairs address.pairs)

theorem viewerQuery_clean (address : Address) : ∀ c ∈ viewerQuery address,
    c.toNat < 128 ∧ isEncodedInQuery c = false ∧ isVisible c = true ∧ decide (c = '#') = false := by
  intro c inside
  obtain ⟨ascii, isQueryChar⟩ := render_chars _ c inside
  exact ⟨ascii, of_ascii (fun c => Form.isQueryChar c = true →
    isEncodedInQuery c = false ∧ isVisible c = true ∧ decide (c = '#') = false) (by decide +kernel) ascii isQueryChar⟩

/-- The path of a viewer address, behind its first slash. -/
def viewerPath : List Char := "vnc.html".toList

theorem viewerPath_clean : ∀ c ∈ viewerPath, isVisible c = true ∧ decide (c = '#') = false ∧ decide (c = '?') = false := by
  have all : (viewerPath.all fun c => isVisible c && c ≠ '#' && c ≠ '?') = true := by decide
  intro c inside
  simpa [and_assoc] using List.all_eq_true.mp all c inside

/-- What stands behind the first slash of a viewer address. -/
def viewerTarget (address : Address) : List Char := viewerPath ++ '?' :: viewerQuery address

theorem target_viewer (address : Address) : (viewer address).target = '/' :: viewerTarget address := by
  have query : (viewer address).query = some (String.ofList (viewerQuery address)) := rfl
  have path : (viewer address).path = '/' :: viewerPath := rfl
  rw [target, query, path]
  dsimp only
  rw [String.toList_ofList]
  rfl

theorem target_visible (address : Address) : ∀ c ∈ (viewer address).target, isVisible c = true := by
  intro c inside
  rw [target_viewer, viewerTarget, List.mem_cons, List.mem_append, List.mem_cons] at inside
  obtain rfl | inName | rfl | inQuery := inside
  · decide
  · exact (viewerPath_clean c inName).1
  · decide
  · exact (viewerQuery_clean address c inQuery).2.2.1

/-- The path and the query of a viewer address are read as they were written. -/
theorem withTarget_viewer (address : Address) : (({ viewer address with segments := [""], query := none } : Address).withTarget []
    (viewerTarget address)) = viewer address := by
  have noFragment : ∀ c ∈ viewerTarget address, decide (c = '#') = false := by
    intro c inside
    rw [viewerTarget, List.mem_append, List.mem_cons] at inside
    obtain inPath | rfl | inQuery := inside
    · exact (viewerPath_clean c inPath).2.1
    · decide
    · exact (viewerQuery_clean address c inQuery).2.2.2
  have coded : percentEncode isEncodedInQuery (viewerQuery address) = viewerQuery address :=
    percentEncode_of_clean fun c inside => ⟨(viewerQuery_clean address c inside).1, (viewerQuery_clean address c inside).2.1⟩
  have path : follow [] (segmentsOf viewerPath) = ["vnc.html"] := by decide
  rw [withTarget, withoutFragment, cutAt_of_clean noFragment]
  dsimp only
  rw [viewerTarget, cutAt_append (by decide) fun c inside => (viewerPath_clean c inside).2.2]
  dsimp only
  rw [path, Option.map_some, encodeQuery, coded]
  rfl

/-- The text of a viewer address is read as that address, if its host is read at all. -/
theorem ofText?_text_viewer (wellFormed : address.WellFormed) :
    ofText? (viewer address).text = (Host.ofChars? address.host.chars).map fun _ => viewer address := by
  rw [ofText?_text (viewer_wellFormed wellFormed) (target_viewer address) (target_visible address), withTarget_viewer]
  rfl

theorem ofText?_viewer (wellFormed : address.WellFormed) (found : ofText? (viewer address).text = some other) :
    other = viewer address := by
  rw [ofText?_text_viewer wellFormed] at found
  obtain ⟨_, _, same⟩ := Option.map_eq_some_iff.mp found
  exact same.symm

theorem trim_viewer (wellFormed : address.WellFormed) : trim (viewer address).text = (viewer address).text :=
  trim_of_visible (chars_visible (viewer_wellFormed wellFormed) (target_visible address))

/-- The form in which an access address is shown is its own form, whatever the address says and whether it is one or not. -/
theorem canonicalize_canonicalize (text : String) : canonicalize (canonicalize text) = canonicalize text := by
  cases read : ofText? (trim text) with
  | none =>
    have shown : canonicalize text = trim text := by rw [canonicalize, read]
    rw [shown, canonicalize, trim_trim, read]
  | some address =>
    have shown : canonicalize text = (viewer address).text := by rw [canonicalize, read]
    have wellFormed := ofText?_wellFormed read
    rw [shown, canonicalize, trim_viewer wellFormed]
    -- What is shown is read as the same viewer address or as none; in both cases it is shown as it stands.
    split
    next other found => rw [ofText?_viewer wellFormed found, viewer_viewer]
    next => rfl

end Viewer

end SingleFlight.Web
