import Conformance.Proofs.Constructors
import Conformance.Proofs.DeepEquality
import Conformance.Proofs.OneLine

/-!
# The trees that decoding makes

With the registry of all directives, decoding makes trees without custom rules, and puts no key into them that
is not in the value. `Keyed P e` says both of a tree, its keys having the property `P`. Such a tree is shown in
one line, with all of its rules.
-/

set_option autoImplicit false

namespace Conformance

/-! ## Keyed trees -/

namespace Rule

def operands : Rule → List Expected
  | .equal e | .notEqual e | .not e => [e]
  | .elementsMatch es | .inSet es | .and es | .or es | .nor es => es
  | _ => []

def isCustom : Rule → Bool
  | .custom _ _ => true
  | _ => false

end Rule

/-- No rule of the tree is custom, and its keys have a property, those in its rules as well. -/
inductive Keyed (P : String → Prop) : Expected → Prop where
  | null : Keyed P .null
  | bool (b : Bool) : Keyed P (.bool b)
  | int (i : Int) : Keyed P (.int i)
  | float (x : Binary64) : Keyed P (.float x)
  | string (s : String) : Keyed P (.string s)
  | array {items : List Expected} (h : ∀ e ∈ items, Keyed P e) : Keyed P (.array items)
  | document {entries : List (String × Expected)} (hkeys : ∀ entry ∈ entries, P entry.1)
      (h : ∀ entry ∈ entries, Keyed P entry.2) : Keyed P (.document entries)
  | rule (label : Label) {r : Rule} (hcustom : r.isCustom = false) (h : ∀ e ∈ r.operands, Keyed P e) :
      Keyed P (.rule label r)

namespace Keyed

variable {P : String → Prop} {e : Expected}

theorem builtin (h : Keyed P e) : Builtin e := by
  induction h with
  | null => exact .null
  | bool b => exact .bool b
  | int i => exact .int i
  | float x => exact .float x
  | string s => exact .string s
  | array _ ih => exact .array ih
  | document _ _ ih => exact .document ih
  | @rule label r hcustom _ ih =>
      cases r with
      | equal e => exact builtin_equal (ih e List.mem_cons_self) label
      | notEqual e => exact .notEqual label e
      | nil target explicit => exact .nil label target explicit
      | required => exact .required label
      | any => exact .any label
      | empty want => exact .empty label want
      | pattern p => exact .pattern label p
      | elementsMatch es => exact .elementsMatch label ih
      | length bounds => exact .length label bounds
      | inSet es => exact .inSet label ih
      | numeric bound => exact .numeric label bound
      | and es => exact .and label ih
      | or es => exact .or label ih
      | nor es => exact .nor label ih
      | not e => exact .not label (ih e List.mem_cons_self)
      | custom name run => cases hcustom

/-- The text of a rule whose operands are shown in one line. -/
theorem lineFeed_notMem_rule {r : Rule} (hcustom : r.isCustom = false)
    (h : ∀ e ∈ r.operands, Legible P (view e)) : '\n' ∉ r.debug.toList := by
  have hlist : ∀ es : List Expected, (∀ e ∈ es, Legible P (view e)) →
      '\n' ∉ (listText (viewItems es)).toList := fun es hes => by
    rw [viewItems_eq_map]
    exact lineFeed_notMem_listText (List.forall_mem_map.mpr hes)
  have hone : ∀ e, (∀ e' ∈ [e], Legible P (view e')) → '\n' ∉ (view e).debug.toList := fun e he =>
    (he e List.mem_cons_self).lineFeed_notMem_debug
  cases r with
  | custom name run => cases hcustom
  | equal e => exact lineFeed_notMem_recordText (by simp) (by simpa using hone e h)
  | notEqual e => exact lineFeed_notMem_recordText (by simp) (by simpa using hone e h)
  | not e => exact lineFeed_notMem_recordText (by simp) (by simpa using hone e h)
  | elementsMatch es => exact lineFeed_notMem_recordText (by simp) (by simpa using hlist es h)
  | inSet es => exact lineFeed_notMem_recordText (by simp) (by simpa using hlist es h)
  | and es => exact lineFeed_notMem_recordText (by simp) (by simpa using hlist es h)
  | or es => exact lineFeed_notMem_recordText (by simp) (by simpa using hlist es h)
  | nor es => exact lineFeed_notMem_recordText (by simp) (by simpa using hlist es h)
  | nil target explicit => exact lineFeed_notMem_recordText (by simp) (by simp)
  | empty want => exact lineFeed_notMem_recordText (by simp) (by simp)
  | pattern p => exact lineFeed_notMem_recordText (by simp) (by simp)
  | length bounds => exact lineFeed_notMem_recordText (by simp) (by simp)
  | numeric bound => exact lineFeed_notMem_numericBound bound
  | required => simp [Rule.debug]
  | any => simp [Rule.debug]

/-- A tree without custom rules is shown in one line. -/
theorem legible_view (h : Keyed P e) : Legible P (view e) := by
  induction h with
  | null => exact .null
  | bool b => exact .bool b
  | int i => exact .int i
  | float x => exact .float x
  | string s => exact .string s
  | array _ ih =>
      rw [view, viewItems_eq_map]
      exact .array (List.forall_mem_map.mpr ih)
  | document hkeys _ ih =>
      rw [view, viewEntries_eq_map]
      exact .document (List.forall_mem_map.mpr hkeys) (List.forall_mem_map.mpr ih)
  | rule label hcustom _ ih =>
      rw [view]
      exact .rule label (lineFeed_notMem_rule hcustom ih)

end Keyed

/-! ## Keys of JSON values -/

/-- The key is that of a member of an object, at some depth of the value. -/
inductive Json.HasKey (key : String) : Json → Prop where
  | here {members : List (String × Json)} {m : String × Json} (hmem : m ∈ members) (hkey : m.1 = key) :
      HasKey key (.object members)
  | item {items : List Json} {x : Json} (hmem : x ∈ items) (h : HasKey key x) : HasKey key (.array items)
  | member {members : List (String × Json)} {m : String × Json} (hmem : m ∈ members) (h : HasKey key m.2) :
      HasKey key (.object members)

/-- Plain data is shown in one line, and has the keys of the value that it was read from. -/
theorem legible_ofJson {P : String → Prop} {j : Json} (hkeys : ∀ key, j.HasKey key → P key) :
    Legible P (.ofJson j) := by
  induction j using Json.induction with
  | null => exact .null
  | bool b => exact .bool b
  | integer i =>
      rw [Tree.ofJson]
      cases Number.ofInteger i with
      | int i => exact .int i
      | float x => exact .float x
  | float x => exact .float x
  | string s => exact .string s
  | array items ih =>
      rw [Tree.ofJson, Tree.ofJsonItems_eq_map]
      refine .array (List.forall_mem_map.mpr fun x hx => ih x hx fun key hkey => ?_)
      exact hkeys key (.item hx hkey)
  | object members ih =>
      rw [Tree.ofJson, Tree.ofJsonMembers_eq_map]
      refine .document (List.forall_mem_map.mpr fun m hm => hkeys m.1 (.here hm rfl))
        (List.forall_mem_map.mpr fun m hm => ih m hm fun key hkey => ?_)
      exact hkeys key (.member hm hkey)

/-! ## Rules that directives make -/

namespace Directive

/-- If there is a rule, then it is not custom, and the trees inside it are the given ones. -/
def MakesFrom (es : List Expected) (result : Except RuleError Rule) : Prop :=
  ∀ r, result = .ok r → r.isCustom = false ∧ r.operands = es

namespace MakesFrom

variable {es : List Expected}

theorem ok {r : Rule} (hcustom : r.isCustom = false) (hoperands : r.operands = es) : MakesFrom es (.ok r) := by
  rintro _ ⟨⟩
  exact ⟨hcustom, hoperands⟩

theorem error (source : RuleError) : MakesFrom es (.error source) := nofun

theorem bind {α : Type} {x : Except RuleError α} {f : α → Except RuleError Rule}
    (h : ∀ a, x = .ok a → MakesFrom es (f a)) : MakesFrom es (x >>= f) := by
  cases x with
  | ok a => exact h a rfl
  | error source => exact .error source

theorem nonEmpty (token : String) {f : List Expected → Rule} (hcustom : (f es).isCustom = false)
    (hoperands : (f es).operands = es) : MakesFrom es (Rule.nonEmpty token es >>= fun es => .ok (f es)) := by
  refine .bind fun es' h => ?_
  unfold Rule.nonEmpty at h
  split at h
  · cases h
  · cases h
    exact .ok hcustom hoperands

end MakesFrom

/-- The constructor makes a rule that is not custom, and all trees inside it are operands of the payload. -/
def TakesOperands (c : Constructor) : Prop :=
  ∀ label p e, c label p = .ok e → ∃ r, e = .rule label r ∧ r.isCustom = false ∧
    ∀ operand ∈ r.operands, p.decoded = .ok operand ∨ ∃ es, p.operands = .ok es ∧ operand ∈ es

theorem takesOperands_ofJson {build : Json → Except RuleError Rule} (h : ∀ j, MakesFrom [] (build j)) :
    TakesOperands (ofJson build) := by
  intro label p e hbuilt
  obtain ⟨r, hr, rfl⟩ := ofJson_eq_ok_iff.mp hbuilt
  obtain ⟨hcustom, hoperands⟩ := h p.json r hr
  refine ⟨r, rfl, hcustom, ?_⟩
  rw [hoperands]
  exact nofun

theorem takesOperands_ofOperand {build : Expected → Except RuleError Rule}
    (h : ∀ e, MakesFrom [e] (build e)) : TakesOperands (ofOperand build) := by
  intro label p e hbuilt
  obtain ⟨operand, r, hdecoded, hr, rfl⟩ := ofOperand_eq_ok_iff.mp hbuilt
  obtain ⟨hcustom, hoperands⟩ := h operand r hr
  refine ⟨r, rfl, hcustom, ?_⟩
  rw [hoperands]
  exact List.forall_mem_singleton.mpr (.inl hdecoded)

theorem takesOperands_ofOperands {build : List Expected → Except RuleError Rule}
    (h : ∀ es, MakesFrom es (build es)) : TakesOperands (ofOperands build) := by
  intro label p e hbuilt
  obtain ⟨es, r, hes, hr, rfl⟩ := ofOperands_eq_ok_iff.mp hbuilt
  obtain ⟨hcustom, hoperands⟩ := h es r hr
  refine ⟨r, rfl, hcustom, ?_⟩
  rw [hoperands]
  exact fun operand hmem => .inr ⟨es, hes, hmem⟩

theorem makesFrom_notEqual (e : Expected) : MakesFrom [e] (buildNotEqual e) := by
  unfold buildNotEqual
  split
  · exact .error _
  · exact .ok rfl rfl

theorem makesFrom_required (j : Json) : MakesFrom [] (buildRequired j) := by
  refine .bind fun b _ => ?_
  cases b with
  | true => exact .ok rfl rfl
  | false => exact .error _

theorem makesFrom_pattern (text : String) : MakesFrom [] (Rule.pattern? text) := by
  unfold Rule.pattern?
  split
  · exact .ok rfl rfl
  · exact .error _

theorem takesOperands_bound (direction : Direction) (inclusive : Bool) :
    TakesOperands (ofBound direction inclusive) :=
  takesOperands_ofJson fun _ => .bind fun _ _ => .ok rfl rfl

/-- Every directive of the table makes its rule of the operands that it reads, and of nothing else. -/
theorem builtin_takesOperands {token : String} {c : Constructor}
    (hfind : Registry.builtin.find? token = some c) : TakesOperands c := by
  induction token, c, hfind using builtin_cases with
  | eq => exact takesOperands_ofOperand fun _ => .ok rfl rfl
  | ne => exact takesOperands_ofOperand makesFrom_notEqual
  | nil => exact takesOperands_ofJson fun _ => .bind fun _ _ => .ok rfl rfl
  | notNil => exact takesOperands_ofJson fun _ => .bind fun _ _ => .ok rfl rfl
  | required => exact takesOperands_ofJson makesFrom_required
  | any => exact takesOperands_ofJson fun _ => .ok rfl rfl
  | regex => exact takesOperands_ofJson fun _ => .bind fun text _ => makesFrom_pattern text
  | elementsMatch => exact takesOperands_ofOperands fun _ => .ok rfl rfl
  | length => exact takesOperands_ofJson fun _ => .bind fun _ _ => .bind fun _ _ => .ok rfl rfl
  | empty => exact takesOperands_ofJson fun _ => .bind fun _ _ => .ok rfl rfl
  | lt => exact takesOperands_bound .below false
  | lte => exact takesOperands_bound .below true
  | gt => exact takesOperands_bound .above false
  | gte => exact takesOperands_bound .above true
  | inSet => exact takesOperands_ofOperands fun _ => .nonEmpty "$in" rfl rfl
  | and => exact takesOperands_ofOperands fun _ => .nonEmpty "$and" rfl rfl
  | or => exact takesOperands_ofOperands fun _ => .nonEmpty "$or" rfl rfl
  | nor => exact takesOperands_ofOperands fun _ => .nonEmpty "$nor" rfl rfl
  | not => exact takesOperands_ofOperand fun _ => .ok rfl rfl

end Directive

/-! ## Decoded trees -/

namespace Registry

variable {P : String → Prop}

/-- What holds of all that decoding makes of the items of an array holds of the decoded items. -/
theorem forall_decodedItems {label : Label} {items : List Json} {es : List Expected}
    (hes : decodedItems 0 (builtin.payloadItems label 0 items) = .ok es) {Q : Expected → Prop}
    (h : ∀ x ∈ items, ∀ e, builtin.DecodesTo x e → Q e) : ∀ e ∈ es, Q e := by
  have hpairs : List.Forall₂ (fun _ e => Q e) items es :=
    forall₂_imp_of_mem (decodesTo_of_decodedItems hes) fun x hx e _ hdecodes => h x hx e hdecodes
  intro e he
  obtain ⟨_, hQ⟩ := exists_of_forall₂ hpairs.flip e he
  exact hQ

/-- The same for the members of a document, which keep their keys. -/
theorem forall_decodedEntries {label : Label} {members : List (String × Json)}
    {es : List (String × Expected)} (hes : decodedEntries (builtin.payloadMembers label 0 members) = .ok es)
    {Q : String → Expected → Prop} (h : ∀ m ∈ members, ∀ e, builtin.DecodesTo m.2 e → Q m.1 e) :
    ∀ entry ∈ es, Q entry.1 entry.2 := by
  have hpairs : List.Forall₂ (fun _ entry => Q entry.1 entry.2) members es :=
    forall₂_imp_of_mem (decodesTo_of_decodedEntries hes) fun m hm entry _ ⟨hkey, hdecodes⟩ =>
      hkey ▸ h m hm entry.2 hdecodes
  intro entry hentry
  obtain ⟨_, hQ⟩ := exists_of_forall₂ hpairs.flip entry hentry
  exact hQ

/-- Decoding makes a tree without custom rules, with keys of the value only. -/
theorem keyed_of_decodesTo {j : Json} (hkeys : ∀ key, j.HasKey key → P key) {e : Expected}
    (h : builtin.DecodesTo j e) : Keyed P e := by
  -- the operands of a directive are two levels down, so that the induction also speaks of items
  have hall : (∀ e, builtin.DecodesTo j e → Keyed P e) ∧
      ∀ items, j = .array items → ∀ x ∈ items, ∀ e, builtin.DecodesTo x e → Keyed P e := by
    clear h
    induction j using Json.induction with
    | array items ih =>
        have hitems : ∀ x ∈ items, ∀ e, builtin.DecodesTo x e → Keyed P e := fun x hx =>
          (ih x hx fun key hkey => hkeys key (.item hx hkey)).1
        constructor
        · rintro e ⟨label, he⟩
          rw [decoded_array, map_eq_ok_iff] at he
          obtain ⟨es, hes, rfl⟩ := he
          exact .array (forall_decodedItems hes hitems)
        · rintro items' ⟨⟩
          exact hitems
    | object members ih =>
        refine ⟨?_, nofun⟩
        rintro e ⟨label, he⟩
        by_cases hdirective : builtin.IsDirective members
        · obtain ⟨token, p, rfl, hcontains⟩ := hdirective
          obtain ⟨c, hfind⟩ := Option.isSome_iff_exists.mp hcontains
          obtain ⟨hp, hitems⟩ := ih (token, p) List.mem_cons_self fun key hkey =>
            hkeys key (.member List.mem_cons_self hkey)
          have hbuilt := (decoded_directive_eq_ok_iff hfind).mp he
          obtain ⟨r, rfl, hcustom, hoperands⟩ := Directive.builtin_takesOperands hfind _ _ _ hbuilt
          refine .rule label hcustom fun operand hmem => ?_
          rcases hoperands operand hmem with hdecoded | ⟨es, hes, hmem⟩
          · exact hp operand ⟨_, hdecoded⟩
          · obtain ⟨items, hitem, hes⟩ := Directive.operands_eq_ok_iff.mp hes
            exact forall_decodedItems hes (hitems items hitem) operand hmem
        · rw [decoded_document hdirective, map_eq_ok_iff] at he
          obtain ⟨es, hes, rfl⟩ := he
          have hentries : ∀ entry ∈ es, P entry.1 ∧ Keyed P entry.2 :=
            forall_decodedEntries hes (Q := fun key e => P key ∧ Keyed P e) fun m hm e he => by
              have hkey : P m.1 := hkeys m.1 (.here hm rfl)
              have hvalue := (ih m hm fun key hkey => hkeys key (.member hm hkey)).1
              exact ⟨hkey, hvalue e he⟩
          exact .document (fun entry hmem => (hentries entry hmem).1) fun entry hmem => (hentries entry hmem).2
    | null => exact ⟨by rintro e ⟨label, ⟨⟩⟩; exact .null, nofun⟩
    | bool b => exact ⟨by rintro e ⟨label, ⟨⟩⟩; exact .bool b, nofun⟩
    | integer i =>
        refine ⟨?_, nofun⟩
        rintro e ⟨label, ⟨⟩⟩
        cases Number.ofInteger i with
        | int i => exact .int i
        | float x => exact .float x
    | float x => exact ⟨by rintro e ⟨label, ⟨⟩⟩; exact .float x, nofun⟩
    | string s => exact ⟨by rintro e ⟨label, ⟨⟩⟩; exact .string s, nofun⟩
  exact hall.1 e h

end Registry

end Conformance
