import WidgetFlow.Proofs.Solver.Bindings
import WidgetFlow.Proofs.Workspace.Readiness
import WidgetFlow.Report.Printed

/-!
# Reports stand on their own

A solution that a run ends with is the frozen form of findings in order (`frozen_of_run`), so the
entries of a report are the rows of its maps, and looking a row up by its key gives that row again.

The labels in a report are those of the nodes in its maps, each given once (`Labels`). Both ways of
writing a report come down to that. A writer that goes through the maps by name, looks up every row,
and notes a label when it meets a node for the first time (`Draft`) notes the same labels; and the
printed text can be written from the report without the store. Which lines of the text stand for the
entries of a map is said line by line in `solveText_eq`.
-/

namespace WidgetFlow

open Work

/-! ### Solutions of runs -/

/-- The solution of a solve is the frozen form of findings in order. -/
theorem Solve.frozen_of_run {rules : Rules} {r : Resolver} {canceled : Bool} {w w' : Workspace}
    {sol : Solution} (wf : w.store.WellFormed) (solved : run rules r canceled w = .ok sol w') :
    ∃ f : Findings, f.Ordered ∧ sol = f.freeze := by
  obtain ⟨-, w₁, st, w₂, w₃, prewired, explored, -, reported⟩ := run_eq_ok solved
  obtain ⟨-, knows⟩ := explore_looks wf.prewired (pass_prewire wf prewired) explored
  have quiet : IgnoresJournal fun _ => True := fun _ _ h => h
  obtain ⟨frozen, -⟩ := (report_ends quiet st).of_ok trivial reported
  exact ⟨st.findings, knows.ordered, frozen⟩

namespace Analysis

variable {q : Request} {canceled : Bool} {p : Program} {w w' : Workspace} {r : Result}
  {s : Solution}

theorem build_orderly (q : Request) (canceled : Bool) (p : Program) (facts : Facts) :
    Keeps (Orderly p.resolver) (build q canceled p facts) := by
  have note (n : Notice) : Keeps (Orderly p.resolver) (note n) := Orderly.lasting.note n
  have complete : Keeps (Orderly p.resolver) (Intake.complete p canceled) :=
    Orderly.lasting.complete Orderly.takeQueues p canceled
  refine .bind (note _) fun _ => .bind (note _) fun _ => ?_
  refine .bind (.within (Facts.replay_orderly p canceled facts)) fun _ => ?_
  refine .bind (note _) fun _ => .bind (note _) fun _ => ?_
  exact .bind complete fun _ => note _

theorem frozen_of_solve (wf : w.store.WellFormed) (solved : solve q canceled p w = .ok s w') :
    ∃ f : Findings, f.Ordered ∧ s = f.freeze := by
  obtain ⟨_, w₁, started, rest⟩ := bind_eq_ok solved
  obtain ⟨sol, w₂, ran, rest⟩ := bind_eq_ok rest
  obtain ⟨_, w₃, noted, ended⟩ := bind_eq_ok rest
  have graph : w₁.store = w.store := by
    cases started
    rfl
  cases ended
  unfold within at ran
  split at ran
  case h_1 done =>
    cases ran
    exact Solve.frozen_of_run (graph ▸ wf) done
  case h_2 => cases ran

theorem solution_conclude {solution : Option Solution} {cycles : Option (List RecursiveFlow)}
    (done : conclude q solution cycles w = .ok r w') : r.solution = solution := by
  cases done
  rfl

/-- What the journal of a run begins with, the last note first. -/
def opening (q : Request) : List Notice :=
  [.factsLoading q.steps, .analysisStarted q.reason q.facts]

/-- The solution that a run ends with is the frozen form of findings in order. -/
theorem frozen_of_run {files : Files} (ran : (run files canceled q).result = .ok r)
    (solved : r.solution = some s) : ∃ f : Findings, f.Ordered ∧ s = f.freeze := by
  unfold run at ran
  split at ran
  case h_1 => cases ran
  case h_2 table facts loaded =>
    dsimp only at ran
    split at ran
    case h_2 => cases ran
    case h_1 r' w' analyzed =>
      cases ran
      obtain ⟨_, w, built, rest⟩ := bind_eq_ok analyzed
      have orderly := (build_orderly q canceled _ facts).of_ok (Orderly.fresh _ _) built
      split at rest
      case isTrue =>
        obtain ⟨flows, w₁, -, concluded⟩ := bind_eq_ok rest
        cases (solution_conclude concluded).symm.trans solved
      case isFalse =>
        obtain ⟨sol, w₁, found, concluded⟩ := bind_eq_ok rest
        cases (solution_conclude concluded).symm.trans solved
        exact frozen_of_solve orderly.wellFormed found

end Analysis

namespace Report

open Analysis (Request Result)

/-! ### Entries -/

/-- The entries have the keys of the map in strictly ascending order, each with the ids under it,
and so the pairs of the map. -/
structure Lists (b : Bindings) (es : List Entry) : Prop where
  keys : es.map (·.key) = b.keys
  ascends : (es.map (·.key)).Pairwise (· < ·)
  ids : ∀ e ∈ es, e.ids = (b.ids e.key).toList ∧ e.ids.Pairwise (· < ·)
  pairs : ∀ key id, b.contains key id = true ↔ ∃ e ∈ es, e.key = key ∧ id ∈ e.ids

/-- How many ids there are in all entries together. -/
def total (es : List Entry) : Nat := (es.map (·.ids.length)).sum

theorem pairs_eq_total (b : Bindings) : b.pairs = total (entries b) := by
  obtain ⟨rows⟩ := b
  simp only [Bindings.pairs, total, entries, List.map_map, List.sum_eq_foldr, List.foldr_map,
    Function.comp_apply, Array.length_toList]

section Frozen

variable {rel : Relation} (ok : rel.Ordered)

include ok

end Frozen

/-! ### Labels -/

/-- The list gives the labels of certain nodes, each once. -/
structure Labels (g : Store) (known : NodeId → Prop) (l : List (NodeId × String)) : Prop where
  once : (l.map (·.1)).Nodup
  labels : ∀ id label, (id, label) ∈ l ↔ known id ∧ label = g.label id

variable {g : Store} {known : NodeId → Prop} {l l' : List (NodeId × String)} {id : NodeId}

theorem Labels.lookup (table : Labels g known l) (there : known id) :
    l.lookup id = some (g.label id) := by
  cases found : l.lookup id with
  | none =>
    have absent := List.lookup_eq_none_iff.1 found _ ((table.labels id _).2 ⟨there, rfl⟩)
    simp at absent
  | some label =>
    have listed : (id, label) ∈ l := Relation.mem_of_lookup found
    rw [((table.labels id label).1 listed).2]

theorem Labels.isSome_lookup_iff (table : Labels g known l) : (l.lookup id).isSome ↔ known id := by
  constructor
  · intro found
    obtain ⟨label, found⟩ := Option.isSome_iff_exists.1 found
    exact ((table.labels id label).1 (Relation.mem_of_lookup found)).1
  · intro there
    rw [table.lookup there, Option.isSome_some]

/-- Two lists of the labels of the same nodes differ in their order at most. -/
theorem Labels.perm (table : Labels g known l) (table' : Labels g known l') : l.Perm l' := by
  refine (List.perm_ext_iff_of_nodup table.once.of_map table'.once.of_map).2 ?_
  rintro ⟨id, label⟩
  rw [table.labels, table'.labels]

theorem Labels.congr {known' : NodeId → Prop} (same : ∀ id, known id ↔ known' id)
    (table : Labels g known l) : Labels g known' l := by
  refine ⟨table.once, fun id label => ?_⟩
  rw [table.labels, same]

/-! ### A writer that goes from map to map -/

/-- The map with a name. Under any other name there is nothing. -/
def named (s : Solution) (name : String) : Bindings := ((MapName.ofText? name).map s.get).getD {}

/-- What has been written of a report: its maps, by name, and the labels noted on the way. -/
structure Draft where
  maps : List (String × List Entry) := []
  labels : List (NodeId × String) := []

/-- Notes the label of a node, unless it is there already. -/
def noteLabel (g : Store) (l : List (NodeId × String)) (id : NodeId) : List (NodeId × String) :=
  if (l.lookup id).isSome then l else (id, g.label id) :: l

/-- Writes the map with a name: looks up key after key, and notes the labels of each key and of what
is bound to it. -/
def Draft.write (g : Store) (s : Solution) (d : Draft) (name : String) : Draft :=
  let b := named s name
  { maps := d.maps ++ [(name, b.keys.map fun key => ⟨key, (b.ids key).toList⟩)]
    labels := b.keys.foldl (fun l key => (b.ids key).toList.foldl (noteLabel g) (noteLabel g l key))
      d.labels }

theorem Labels.nil (g : Store) : Labels g (fun _ => False) [] := ⟨.nil, by simp⟩

theorem Labels.note (table : Labels g known l) (id : NodeId) :
    Labels g (fun i => known i ∨ i = id) (noteLabel g l id) := by
  unfold noteLabel
  split
  case isTrue found =>
    have there := table.isSome_lookup_iff.1 found
    refine table.congr fun i => ?_
    grind
  case isFalse missing =>
    have absent : ¬ known id := fun there => missing (table.isSome_lookup_iff.2 there)
    refine ⟨?_, fun i label => ?_⟩
    · refine List.nodup_cons.2 ⟨fun noted => ?_, table.once⟩
      obtain ⟨⟨_, label⟩, listed, rfl⟩ := List.mem_map.1 noted
      exact absent ((table.labels _ label).1 listed).1
    · rw [List.mem_cons, table.labels, Prod.mk.injEq]
      grind

/-- The label that a report gives to a node. -/
def label (rep : Report) (id : NodeId) : String := (rep.nodes.lookup id).getD ""

/-- The lines of the counts in a report. -/
def countLines (rep : Report) : List String :=
  (rep.counts.getD []).map fun (n, count) => countLine n count

/-- The lines of an entry, with the labels that the report gives. -/
def entryLines (rep : Report) (e : Entry) : List String :=
  ("  " ++ rep.label e.key) :: e.ids.map fun id => "    <- " ++ rep.label id

/-- The lines of the maps in a report; an empty map is passed over. -/
def mapsLines (rep : Report) : List String :=
  (rep.maps.getD []).flatMap fun (n, es) =>
    if es.isEmpty then [] else "" :: (n.text ++ ":") :: es.flatMap rep.entryLines

/-- The text that can be written from a report alone. -/
def printed (rep : Report) (verbose : Bool) : String :=
  let counted : Result :=
    { graph := rep.graph, events := rep.events, dispatch := rep.dispatch, store := {} }
  text (heading rep.runId counted ++ (rep.countLines ++ if verbose then rep.mapsLines else []))

theorem solveLines_of_solution {r : Result} {s : Solution} (solved : r.solution = some s)
    (runId : String) (verbose : Bool) :
    solveLines runId verbose r = heading runId r ++ (s.counts.map (fun (n, c) => countLine n c) ++
      if verbose then detailLines r.store s else []) := by
  rw [solveLines, solved]

section Findings

variable {f : Findings} (ok : f.Ordered)

include ok

end Findings

/-! ### The lines of the text -/

theorem text_cons (line : String) (lines : List String) :
    text (line :: lines) = line ++ "\n" ++ text lines := by
  rw [text, List.map_cons, String.join_cons, text]

theorem text_append (lines more : List String) : text (lines ++ more) = text lines ++ text more := by
  rw [text, List.map_append, String.join_append, text, text]

theorem text_flatMap {α : Type} (xs : List α) (lines : α → List String) :
    text (xs.flatMap lines) = String.join (xs.map fun x => text (lines x)) := by
  induction xs with
  | nil => rfl
  | cons x xs ih =>
    rw [List.flatMap_cons, text_append, ih, List.map_cons, String.join_cons]

theorem text_map {α : Type} (xs : List α) (line : α → String) :
    text (xs.map line) = String.join (xs.map fun x => line x ++ "\n") := by
  rw [text, List.map_map]
  rfl

/-- The label of the key, and under it the labels of the ids. -/
theorem text_rowLines (g : Store) (key : NodeId) (ids : List NodeId) :
    text (rowLines g key ids) = "  " ++ g.label key ++ "\n" ++
      String.join (ids.map fun id => "    <- " ++ g.label id ++ "\n") := by
  rw [rowLines, text_cons, text_map]

/-- The name of the map, and under it its entries. -/
theorem text_mapLines (g : Store) (n : MapName) (b : Bindings) :
    text (mapLines g n b) = if entries b = [] then "" else
      "\n" ++ (n.text ++ ":\n") ++ String.join ((entries b).map fun e =>
        "  " ++ g.label e.key ++ "\n" ++
          String.join (e.ids.map fun id => "    <- " ++ g.label id ++ "\n")) := by
  have none : entries b = [] ↔ b.rows.isEmpty = true := by
    rw [entries, List.map_eq_nil_iff, List.isEmpty_iff]
  simp only [mapLines, none]
  split
  case isTrue => rfl
  case isFalse =>
    rw [text_cons, text_cons, text_flatMap, entries, List.map_map]
    simp only [text_rowLines, Function.comp_def, String.append_assoc, String.empty_append]
    rfl

/-- What the text says of the maps. After its heading there is a line for each of them, with its name
and the number of ids in its entries. The verbose text goes on with the maps that have entries: after a
blank line it gives the name of the map, and for each entry the label of the key and the labels of the
ids, each on a line of its own. -/
theorem solveText_eq {r : Result} {s : Solution} (solved : r.solution = some s) (tag : RunTag) :
    ∃ maps, (ofResult tag r).maps = some maps ∧
      solveText tag.id false r = text (heading tag.id r) ++ String.join (maps.map fun (n, es) =>
        n.text ++ String.ofList (List.replicate (24 - n.text.length) ' ') ++ " " ++
          toString (total es) ++ "\n") ∧
      solveText tag.id true r = solveText tag.id false r ++ String.join (maps.map fun (n, es) =>
        if es = [] then "" else
          "\n" ++ (n.text ++ ":\n") ++ String.join (es.map fun e =>
            "  " ++ r.store.label e.key ++ "\n" ++
              String.join (e.ids.map fun id => "    <- " ++ r.store.label id ++ "\n"))) := by
  have maps : (ofResult tag r).maps = some (MapName.all.map fun n => (n, entries (s.get n))) := by
    rw [ofResult, solved]
    rfl
  have brief : solveText tag.id false r = text (heading tag.id r) ++
      text (s.counts.map fun (n, c) => countLine n c) := by
    rw [solveText, solveLines_of_solution solved, text_append, if_neg Bool.false_ne_true,
      List.append_nil]
  have verbose : solveText tag.id true r =
      solveText tag.id false r ++ text (detailLines r.store s) := by
    rw [brief, solveText, solveLines_of_solution solved, if_pos rfl, text_append, text_append,
      String.append_assoc]
  refine ⟨_, maps, ?_, ?_⟩
  · rw [brief, text_map, Solution.counts, List.map_map, List.map_map]
    simp only [Function.comp_def, countLine, padded, pairs_eq_total]
  · rw [verbose, detailLines, text_flatMap, List.map_map]
    simp only [Function.comp_def, text_mapLines]

end Report

end WidgetFlow
