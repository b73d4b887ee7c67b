import Conformance.Proofs.Composition
import Conformance.Proofs.Origins
import Mathlib.Data.List.Pairwise

/-!
# No node is reported twice

In a tree without combinators, each node is reported at most once, and where a node is reported nothing is said of
what is below it. `SingleReport` describes such trees: documents name no key twice, and rules make one remark at
most, whatever their operands are. The main statement is that the paths of a report are then apart, that is, no
path is at or above another one.

Two parts of a report are apart if they begin with different steps. What is found in a document begins with its
keys, what is found in an array with its positions, and the keys that a strict document adds are not its own.
-/

set_option autoImplicit false

namespace Conformance

/-! ## The trees -/

/-- Every node of the tree is reported at most once. Of the operands of the last three rules nothing is asked. -/
inductive SingleReport : Expected → Prop where
  | null : SingleReport .null
  | bool (b : Bool) : SingleReport (.bool b)
  | int (i : Int) : SingleReport (.int i)
  | float (x : Binary64) : SingleReport (.float x)
  | string (s : String) : SingleReport (.string s)
  | array {items : List Expected} (h : ∀ e ∈ items, SingleReport e) : SingleReport (.array items)
  | document {entries : List (String × Expected)} (hkeys : (entries.map Prod.fst).Nodup)
      (h : ∀ entry ∈ entries, SingleReport entry.2) : SingleReport (.document entries)
  | equal (label : Label) {e : Expected} (h : SingleReport e) : SingleReport (.rule label (.equal e))
  | notEqual (label : Label) (e : Expected) : SingleReport (.rule label (.notEqual e))
  | nil (label : Label) (target explicit : Bool) : SingleReport (.rule label (.nil target explicit))
  | required (label : Label) : SingleReport (.rule label .required)
  | any (label : Label) : SingleReport (.rule label .any)
  | empty (label : Label) (want : Bool) : SingleReport (.rule label (.empty want))
  | pattern (label : Label) (p : Pattern) : SingleReport (.rule label (.pattern p))
  | numeric (label : Label) (bound : NumericBound) : SingleReport (.rule label (.numeric bound))
  | elementsMatch (label : Label) (es : List Expected) : SingleReport (.rule label (.elementsMatch es))
  | inSet (label : Label) (es : List Expected) : SingleReport (.rule label (.inSet es))
  | not (label : Label) (e : Expected) : SingleReport (.rule label (.not e))

/-! ## Mismatches that are apart -/

/-- Neither place is at or above the other. -/
def Mismatch.ApartFrom (m n : Mismatch) : Prop :=
  ¬ m.path.segments <+: n.path.segments ∧ ¬ n.path.segments <+: m.path.segments

instance : Std.Symm Mismatch.ApartFrom where
  symm := fun _ _ h => ⟨h.2, h.1⟩

theorem Mismatch.ApartFrom.path_ne {m n : Mismatch} (h : m.ApartFrom n) : m.path ≠ n.path := by
  intro hsame
  rw [Mismatch.ApartFrom, hsame] at h
  exact h.1 (List.prefix_refl _)

/-- No mismatch of the list is at or above the place of a later one, or below it. -/
def AllApart (ms : List Mismatch) : Prop := ms.Pairwise Mismatch.ApartFrom

def BeginWith (s : Segment) (ms : List Mismatch) : Prop := ∀ m ∈ ms, m.path.segments.head? = some s

/-- Paths that part at their first step do not meet again. -/
theorem apartFrom_of_steps {s s' : Segment} (hne : s ≠ s') {m n : Mismatch}
    (hm : m.path.segments.head? = some s) (hn : n.path.segments.head? = some s') : m.ApartFrom n := by
  obtain ⟨p, hp⟩ := List.head?_eq_some_iff.mp hm
  obtain ⟨q, hq⟩ := List.head?_eq_some_iff.mp hn
  rw [Mismatch.ApartFrom, hp, hq]
  constructor
  · intro hprefix
    exact hne (List.cons_prefix_cons.mp hprefix).1
  · intro hprefix
    exact hne (List.cons_prefix_cons.mp hprefix).1.symm

theorem Remark.allApart {ms : List Mismatch} (h : Remark ms) : AllApart ms := by
  cases h with
  | none => exact List.Pairwise.nil
  | here hmessage => exact List.pairwise_singleton _ _

theorem beginWith_below (s : Segment) (ms : List Mismatch) : BeginWith s (below s ms) := by
  intro m hm
  obtain ⟨inner, -, rfl⟩ := List.mem_map.mp hm
  rfl

theorem AllApart.below {ms : List Mismatch} (h : AllApart ms) (s : Segment) : AllApart (below s ms) := by
  refine List.pairwise_map.mpr (List.Pairwise.imp ?_ h)
  rintro m n ⟨hmn, hnm⟩
  -- a step in front of both changes nothing
  have hm : (m.under (Path.root.push s)).path.segments = s :: m.path.segments := rfl
  have hn : (n.under (Path.root.push s)).path.segments = s :: n.path.segments := rfl
  rw [Mismatch.ApartFrom, hm, hn, List.prefix_cons_inj, List.prefix_cons_inj]
  exact ⟨hmn, hnm⟩

/-- Findings that begin with different steps are apart. -/
theorem allApart_flatMap {α : Type} {l : List α} {step : α → Segment} {f : α → List Mismatch}
    (hsteps : (l.map step).Nodup) (hbegin : ∀ x ∈ l, BeginWith (step x) (f x))
    (h : ∀ x ∈ l, AllApart (f x)) : AllApart (l.flatMap f) := by
  refine List.pairwise_flatMap.mpr ⟨h, ?_⟩
  refine List.Pairwise.imp_of_mem ?_ (List.pairwise_map.mp hsteps)
  intro x y hx hy hne m hm n hn
  exact apartFrom_of_steps hne (hbegin x hx m hm) (hbegin y hy n hn)

/-! ## Documents and arrays -/

theorem beginWith_entry (actual : List (String × Value)) (entry : String × Finder) :
    BeginWith (.key entry.1) (Find.entry actual entry) := by
  unfold Find.entry
  split
  · exact beginWith_below _ _
  · intro m hm
    rw [List.mem_singleton.mp hm]
    rfl

theorem allApart_entry {actual : List (String × Value)} {entry : String × Finder}
    (h : ∀ v, AllApart (entry.2 v)) : AllApart (Find.entry actual entry) := by
  unfold Find.entry
  split
  · exact (h _).below _
  · exact List.pairwise_singleton _ _

/-- No key is named twice, so that entries report at different keys. -/
theorem allApart_document {k : Bool} {entries : List (String × Expected)}
    (hkeys : (entries.map Prod.fst).Nodup) (h : ∀ entry ∈ entries, ∀ v, AllApart (findTree k entry.2 v))
    (a : Value) : AllApart (findTree k (.document entries) a) := by
  by_cases hshape : ∃ actual, a = .document actual
  · obtain ⟨actual, rfl⟩ := hshape
    rw [findTree_document]
    -- the key of an entry is the first step of all that is found at it
    have hsteps : (entries.map fun entry => Segment.key entry.1).Nodup := by
      have hmap : entries.map (fun entry => Segment.key entry.1) = (entries.map Prod.fst).map Segment.key := by
        rw [List.map_map]
        rfl
      rw [hmap]
      exact hkeys.map fun _ _ hsame => Segment.key.inj hsame
    refine allApart_flatMap hsteps ?_ fun entry hmem => allApart_entry (h entry hmem)
    exact fun entry _ => beginWith_entry actual (entry.1, findTree k entry.2)
  · rw [findTree_document_shape k entries fun actual hactual => hshape ⟨actual, hactual⟩]
    exact List.pairwise_singleton _ _

/-- Elements report at their positions. -/
theorem allApart_array {k : Bool} {items : List Expected} (h : ∀ e ∈ items, ∀ v, AllApart (findTree k e v))
    (a : Value) : AllApart (findTree k (.array items) a) := by
  by_cases hshape : ∃ values, a = .array values
  · obtain ⟨values, rfl⟩ := hshape
    by_cases hlength : items.length = values.length
    · rw [findTree_array k hlength]
      -- here it is the position, which the zipped list counts for itself
      have hsteps : ((items.zip values).zipIdx.map fun p => Segment.index p.2).Nodup := by
        have hmap : (items.zip values).zipIdx.map (fun p => Segment.index p.2)
            = ((items.zip values).zipIdx.map Prod.snd).map Segment.index := by
          rw [List.map_map]
          rfl
        have hpositions : (List.range' 0 (items.zip values).length).Nodup := List.nodup_range'
        rw [hmap, List.zipIdx_map_snd]
        exact hpositions.map fun _ _ hsame => Segment.index.inj hsame
      refine allApart_flatMap hsteps ?_ ?_
      · rintro ⟨⟨e, v⟩, i⟩ -
        exact beginWith_below _ _
      · rintro ⟨⟨e, v⟩, i⟩ hmem
        have he : e ∈ items := (List.of_mem_zip (List.fst_mem_of_mem_zipIdx hmem)).1
        exact (h e he v).below _
    -- otherwise the array is reported, and none of its elements is looked at
    · rw [findTree_array_length k hlength]
      exact List.pairwise_singleton _ _
  · rw [findTree_array_shape k items fun values hvalues => hshape ⟨values, hvalues⟩]
    exact List.pairwise_singleton _ _

/-- The keys beyond a document are apart from each other and from all that is found in it. -/
theorem allApart_strict {k : Bool} {entries : List (String × Expected)} {a : Value}
    (h : AllApart (findTree k (.document entries) a)) :
    AllApart (findTree k (.document entries) a ++ extraReport entries a) := by
  by_cases hshape : ∃ actual, a = .document actual
  · obtain ⟨actual, rfl⟩ := hshape
    have hextras : extraReport entries (.document actual)
        = (Check.extraKeys (entries.map Prod.fst) actual).map Mismatch.extraKey := by
      rw [extraKeys_eq]
      rfl
    rw [hextras]
    -- what is found begins with a key of the document, and an extra key is none of these
    refine List.pairwise_append.mpr ⟨h, ?_, ?_⟩
    · refine List.pairwise_map.mpr (List.Pairwise.imp ?_ (nodup_extraKeys (entries.map Prod.fst) actual))
      intro key key' hne
      exact apartFrom_of_steps (fun hsame => hne (Segment.key.inj hsame)) rfl rfl
    · intro m hm n hn
      obtain ⟨key, hkey, rfl⟩ := List.mem_map.mp hn
      rw [findTree_document] at hm
      obtain ⟨entry, hentry, hfound⟩ := List.mem_flatMap.mp hm
      have hbegin : m.path.segments.head? = some (.key entry.1) := beginWith_entry actual _ m hfound
      have hne : entry.1 ≠ key := by
        rintro rfl
        exact (mem_extraKeys.mp hkey).2 (List.mem_map_of_mem hentry)
      exact apartFrom_of_steps (fun hsame => hne (Segment.key.inj hsame)) hbegin rfl
  · have hnone : extraReport entries a = [] := by
      cases a with
      | document actual => exact absurd ⟨actual, rfl⟩ hshape
      | _ => rfl
    rw [hnone, List.append_nil]
    exact h

/-! ## The main statement -/

/-- What there is to find at a tree that makes single reports is apart, in either mode. Of the rules, only those for
equality hand up what they find; the others make remarks. -/
theorem findTree_allApart {e : Expected} (h : SingleReport e) (k : Bool) (a : Value) :
    AllApart (findTree k e a) := by
  induction h generalizing a with
  | null => exact (remark_leaf _ a).allApart
  | bool b => exact (remark_leaf _ a).allApart
  | int i => exact (remark_leaf _ a).allApart
  | float x => exact (remark_leaf _ a).allApart
  | string s => exact (remark_leaf _ a).allApart
  | array _ ih => exact allApart_array ih a
  | document hkeys _ ih => exact allApart_document hkeys ih a
  | @equal label e _ ih =>
      by_cases hshape : ∃ entries, e = .document entries
      · obtain ⟨entries, rfl⟩ := hshape
        rw [findTree_strict_eq]
        exact allApart_strict (ih a)
      · rw [findTree_same fun entries hentries => hshape ⟨entries, hentries⟩]
        exact ih a
  | notEqual label e => exact (remark_notEqual e a).allApart
  | nil label target explicit => exact (remark_nil target explicit a).allApart
  | required label => exact (remark_required a).allApart
  | any label => exact Remark.none.allApart
  | empty label want => exact (remark_empty want a).allApart
  | pattern label p => exact (remark_pattern p a).allApart
  | numeric label bound => exact (remark_numeric bound a).allApart
  | elementsMatch label es => exact (remark_elementsMatch _ a).allApart
  | inSet label es => exact (remark_inSet _ a).allApart
  | not label e => exact (remark_not _ a).allApart

/-- **No node is reported twice**: where a tree makes single reports, the paths of the mismatches that a tester
collects are distinct, and none of them is a proper prefix of another. -/
theorem Tester.mismatches_apart {e : Expected} (h : SingleReport e) {t : Tester}
    (hmode : t.options.collectAll = true) (a : Value) :
    let paths := (t.test e a).1.mismatches.map Mismatch.path
    paths.Nodup ∧ ∀ p ∈ paths, ∀ q ∈ paths, p.segments <+: q.segments → p = q := by
  intro paths
  have hpaths : paths = (findTree true e a).map Mismatch.path := by
    show (t.test e a).1.mismatches.map Mismatch.path = _
    rw [mismatches_test hmode]
  have hapart : AllApart (findTree true e a) := findTree_allApart h true a
  rw [hpaths]
  constructor
  · exact List.pairwise_map.mpr (hapart.imp fun hmn => hmn.path_ne)
  · intro p hp q hq hprefix
    obtain ⟨m, hm, rfl⟩ := List.mem_map.mp hp
    obtain ⟨n, hn, rfl⟩ := List.mem_map.mp hq
    by_contra hne
    have hmn : m ≠ n := fun hsame => hne (congrArg Mismatch.path hsame)
    have hmnApart : m.ApartFrom n := hapart.forall hm hn hmn
    exact hmnApart.1 hprefix

/-- A strict document is one node less a key, two keys too many, and one of these is repeated in the value. -/
theorem mismatches_apart_repeated_key :
    let e : Expected := .document [("k", .rule [0] (.equal (.document
      [("x", .array [.int 1, .rule [1] (.not (.rule [2] (.and [.rule [3] .any])))]), ("y", .null)])))]
    let a : Value := .document [("k", .document [("z", .null), ("x", .array [.int 2, .null]),
      ("z", .int 1), ("w", .null)]), ("k", .null)]
    let t : Tester := .ofOptions { threshold := 0, collectAll := true }
    let paths := (t.test e a).1.mismatches.map Mismatch.path
    paths.map Path.segments = [[.key "k", .key "x", .index 0], [.key "k", .key "x", .index 1],
      [.key "k", .key "y"], [.key "k", .key "z"], [.key "k", .key "w"]] ∧ paths.Nodup := by
  intro e a t paths
  have hsingle : SingleReport e := by
    have helements : SingleReport (.array [.int 1, .rule [1] (.not (.rule [2] (.and [.rule [3] .any])))]) :=
      .array (List.forall_mem_cons.mpr ⟨.int 1, List.forall_mem_singleton.mpr (.not [1] _)⟩)
    refine .document (by decide) (List.forall_mem_singleton.mpr (.equal [0] (.document (by decide) ?_)))
    exact List.forall_mem_cons.mpr ⟨helements, List.forall_mem_singleton.mpr .null⟩
  refine ⟨?_, (Tester.mismatches_apart hsingle rfl a).1⟩
  show ((t.test e a).1.mismatches.map Mismatch.path).map Path.segments = _
  rw [Tester.test_eq_verdict]
  rfl

end Conformance
