import Conformance.Proofs.Constructors

/-!
# Who is to blame

`sites` walks through a value and lists its directives, each with its path, in the order in which they are
decoded: operands before the directive that they belong to, and siblings in their order. When decoding
fails, it is the first site in this order that cannot be accepted which the error names, with its path, its
token, and the reason that its own constructor gave (`Registry.decode_error_blames`).

The invariant is `Judged`: a result is judged by the sites that were passed on the way to it. A success means
that all of them are accepted, and an error blames one of them.
-/

set_option autoImplicit false

namespace Conformance

/-- A directive in a value, and where it is. -/
structure Site where
  path : Path
  token : String
  payload : Json

def Site.under (base : Path) (s : Site) : Site := { s with path := base.join s.path }

namespace Directive

open Registry

mutual

/-- The directives in a value, operands first. The payload of a directive with one operand is at the place of
the directive, and the operands in an array are at their positions; other payloads are not looked into. -/
def sites : Json → List Site
  | .array items => sitesItems 0 items
  | .object [(token, p)] =>
    if builtin.contains token then
      (match reading token, p with
        | .operand, p => sites p
        | .operands, .array items => sitesItems 0 items
        | _, _ => []) ++ [⟨.root, token, p⟩]
    else (sites p).map (Site.under ⟨[.key token]⟩)
  | .object members => sitesMembers members
  | _ => []

/-- The directives in several items, the first of which has the given position. -/
def sitesItems : (position : Nat) → List Json → List Site
  | _, [] => []
  | position, x :: rest =>
    (sites x).map (Site.under ⟨[.index position]⟩) ++ sitesItems (position + 1) rest

def sitesMembers : List (String × Json) → List Site
  | [] => []
  | (key, x) :: rest => (sites x).map (Site.under ⟨[.key key]⟩) ++ sitesMembers rest

end

def operandSites (token : String) (p : Json) : List Site :=
  match reading token, p with
  | .operand, p => sites p
  | .operands, .array items => sitesItems 0 items
  | _, _ => []

theorem sites_directive {token : String} (hcontains : builtin.contains token = true) (p : Json) :
    sites (.object [(token, p)]) = operandSites token p ++ [⟨.root, token, p⟩] := by
  rw [sites.eq_def]
  dsimp only
  rw [if_pos hcontains]
  rfl

theorem sites_document {members : List (String × Json)} (hplain : ¬ builtin.IsDirective members) :
    sites (.object members) = sitesMembers members := by
  match members with
  | [] => rfl
  | [(token, p)] =>
      have hcontains : ¬ builtin.contains token = true := fun h => hplain ⟨token, p, rfl, h⟩
      rw [sites.eq_def]
      dsimp only
      rw [if_neg hcontains, sitesMembers, sitesMembers, List.append_nil]
  | _ :: _ :: _ => rfl

/-! ## Verdicts about sites -/

end Directive

open Directive

namespace Site

def Accepted (s : Site) : Prop := Registry.builtin.Decodes (.object [(s.token, s.payload)])

/-- The directive is refused for a reason of its own: all of its operands can be decoded, and its constructor
gives the reason. -/
structure Refused (s : Site) (source : RuleError) : Prop where
  own : ∀ inner, source ≠ .nested inner
  operands : ∀ x ∈ operands s.token s.payload, Registry.builtin.Decodes x
  check : ∃ c, Registry.builtin.find? s.token = some c ∧
    ∀ label, c label (Registry.builtin.payload (0 :: label) s.payload) = .error source

/-- What is refused under every label is decoded under none. -/
theorem Refused.not_accepted {s : Site} {source : RuleError} (h : s.Refused source) : ¬ s.Accepted := by
  intro haccepted
  obtain ⟨c, hfind, hcheck⟩ := h.check
  obtain ⟨e, he⟩ := haccepted []
  rw [Registry.decoded_directive_eq_ok_iff hfind, hcheck] at he
  cases he

end Site

namespace Directive

/-- The error names the first of the sites that is not accepted, and the reason for which it is refused. -/
def Blames (ss : List Site) (err : DecodeError) : Prop :=
  ∃ before s after source, ss = before ++ s :: after ∧ err = .directive s.token s.path source ∧
    s.Refused source ∧ ∀ d ∈ before, d.Accepted

/-- What the sites on the way to a result say about it. -/
structure Judged {α : Type} (ss : List Site) (result : Except DecodeError α) : Prop where
  accepted : ∀ a, result = .ok a → ∀ s ∈ ss, s.Accepted
  blames : ∀ err, result = .error err → Blames ss err

theorem Blames.under {ss : List Site} {err : DecodeError} (h : Blames ss err) (base : Path) :
    Blames (ss.map (Site.under base)) (err.under base) := by
  obtain ⟨before, s, after, source, rfl, rfl, hrefused, hbefore⟩ := h
  refine ⟨before.map (Site.under base), s.under base, after.map (Site.under base), source, ?_, rfl,
    ⟨hrefused.own, hrefused.operands, hrefused.check⟩, List.forall_mem_map.mpr hbefore⟩
  rw [List.map_append, List.map_cons]

/-- Sites that come later are not to blame. -/
theorem Blames.before {ss : List Site} {err : DecodeError} (h : Blames ss err) (ts : List Site) :
    Blames (ss ++ ts) err := by
  obtain ⟨before, s, after, source, rfl, herr, hrefused, hbefore⟩ := h
  exact ⟨before, s, after ++ ts, source, by rw [List.append_assoc, List.cons_append], herr, hrefused,
    hbefore⟩

/-- Accepted sites in front leave the blame where it is. -/
theorem Blames.behind {ss ts : List Site} {err : DecodeError} (h : Blames ts err)
    (hss : ∀ s ∈ ss, s.Accepted) : Blames (ss ++ ts) err := by
  obtain ⟨before, s, after, source, rfl, herr, hrefused, hbefore⟩ := h
  refine ⟨ss ++ before, s, after, source, by rw [List.append_assoc], herr, hrefused, ?_⟩
  exact List.forall_mem_append.mpr ⟨hss, hbefore⟩

namespace Judged

variable {α β : Type} {ss ts : List Site} {x : Except DecodeError α}

theorem ok (a : α) : Judged [] (.ok a) := ⟨fun _ _ => List.forall_mem_nil _, nofun⟩

theorem under (h : Judged ss x) (base : Path) :
    Judged (ss.map (Site.under base)) (x.mapError (·.under base)) := by
  cases x with
  | ok a => exact ⟨fun _ _ => List.forall_mem_map.mpr (h.accepted a rfl), nofun⟩
  | error err =>
      refine ⟨nofun, ?_⟩
      rintro err' ⟨⟩
      exact (h.blames err rfl).under base

/-- The second step is judged only if the first one succeeds, and then all sites of the first are accepted. -/
theorem seq (hx : Judged ss x) {f : α → Except DecodeError β} (hf : ∀ a, Judged ts (f a)) :
    Judged (ss ++ ts) (x >>= f) := by
  cases x with
  | ok a =>
      have hss : ∀ s ∈ ss, s.Accepted := hx.accepted a rfl
      constructor
      · intro b hb
        exact List.forall_mem_append.mpr ⟨hss, (hf a).accepted b hb⟩
      · intro err herr
        exact ((hf a).blames err herr).behind hss
  | error err =>
      refine ⟨nofun, ?_⟩
      rintro err' ⟨⟩
      exact (hx.blames err rfl).before ts

/-- What is made of a result has no part in the judgement. -/
theorem map_iff (f : α → β) : Judged ss (x.map f) ↔ Judged ss x := by
  cases x with
  | ok a =>
      constructor
      · intro h
        exact ⟨fun _ _ => h.accepted (f a) rfl, nofun⟩
      · intro h
        exact ⟨fun _ _ => h.accepted a rfl, nofun⟩
  | error err =>
      constructor
      · intro h
        exact ⟨nofun, fun _ herr => h.blames _ (congrArg _ (Except.error.inj herr))⟩
      · intro h
        exact ⟨nofun, fun _ herr => h.blames _ (congrArg _ (Except.error.inj herr))⟩

/-- Where all sites are accepted there is a result. -/
theorem exists_ok (h : Judged ss x) (hss : ∀ s ∈ ss, s.Accepted) : ∃ a, x = .ok a := by
  cases x with
  | ok a => exact ⟨a, rfl⟩
  | error err =>
      obtain ⟨before, s, after, source, rfl, -, hrefused, -⟩ := h.blames err rfl
      exact absurd (hss s (by simp)) hrefused.not_accepted

end Judged

/-! ## Arrays and documents -/

open Registry

/-- Decoding the value is judged by its sites, whatever the label. -/
def Judging (j : Json) : Prop := ∀ label, Judged (sites j) (builtin.payload label j).decoded

/-- Each item is decoded one step further down, under a label of its own. -/
theorem judged_items {items : List Json} (h : ∀ x ∈ items, Judging x) (label : Label) (n position : Nat) :
    Judged (sitesItems position items) (decodedItems position (builtin.payloadItems label n items)) := by
  induction items generalizing n position with
  | nil => exact .ok _
  | cons x rest ih =>
      obtain ⟨hx, hrest⟩ := List.forall_mem_cons.mp h
      have hfirst := (hx (n :: label)).under ⟨[.index position]⟩
      exact hfirst.seq fun e => (Judged.map_iff (e :: ·)).mpr (ih hrest (n + 1) (position + 1))

theorem judged_members {members : List (String × Json)} (h : ∀ m ∈ members, Judging m.2) (label : Label)
    (n : Nat) : Judged (sitesMembers members) (decodedEntries (builtin.payloadMembers label n members)) := by
  induction members generalizing n with
  | nil => exact .ok _
  | cons m rest ih =>
      obtain ⟨hm, hrest⟩ := List.forall_mem_cons.mp h
      have hfirst := (hm (n :: label)).under ⟨[.key m.1]⟩
      exact hfirst.seq fun e => (Judged.map_iff ((m.1, e) :: ·)).mpr (ih hrest (n + 1))

/-! ## Directives -/

/-- Where an item stands does not matter to whether its directives are accepted. -/
theorem forall_sitesItems_iff (position : Nat) (items : List Json) :
    (∀ s ∈ sitesItems position items, s.Accepted) ↔ ∀ x ∈ items, ∀ s ∈ sites x, s.Accepted := by
  induction items generalizing position with
  | nil => exact iff_of_true (List.forall_mem_nil _) (List.forall_mem_nil _)
  | cons x rest ih =>
      rw [sitesItems, List.forall_mem_append, ih, List.forall_mem_map, List.forall_mem_cons]
      exact Iff.rfl

theorem Judging.decodes {j : Json} (h : Judging j) (hsites : ∀ s ∈ sites j, s.Accepted) :
    builtin.Decodes j :=
  fun label => (h label).exists_ok hsites

/-- An error of a constructor's own is reported at the directive; one of an operand would pass through. -/
theorem ofConstructor_error {source : RuleError} (hown : ∀ inner, source ≠ .nested inner)
    (token : String) : ofConstructor token (.error source) = .error (.directive token .root source) := by
  cases source with
  | nested inner => exact absurd rfl (hown inner)
  | _ => rfl

section Building

variable {token : String} {c : Constructor} {p : Json} {ss : List Site}

/-- A constructor that reads something from the payload and then builds a rule from it is judged by the sites
on the way to what it reads, and then by itself: what it says of itself does not depend on the label. -/
theorem judged_directive {α : Type} (read : Label → Except DecodeError α)
    (build : α → Except RuleError Rule) (hfind : builtin.find? token = some c)
    (hc : ∀ label, c label (builtin.payload (0 :: label) p)
      = (read label).mapError .nested >>= fun a => build a >>= fun rule => .ok (.rule label rule))
    (hread : ∀ label, Judged ss (read label)) (hown : ∀ a, OwnError (build a))
    (hsame : ∀ label label' a a' source, read label = .ok a → read label' = .ok a' →
      build a = .error source → build a' = .error source)
    (hoperands : (∀ s ∈ ss, s.Accepted) → ∀ x ∈ operands token p, builtin.Decodes x) (label : Label) :
    Judged (ss ++ [⟨.root, token, p⟩])
      (ofConstructor token (c label (builtin.payload (0 :: label) p))) := by
  have hbuilt : ∀ {label a}, read label = .ok a → c label (builtin.payload (0 :: label) p)
      = build a >>= fun rule => .ok (.rule label rule) := by
    intro label a ha
    rw [hc, ha]
    rfl
  cases ha : read label with
  | error err =>
      -- an operand is to blame already, and its error is passed on
      have hresult : ofConstructor token (c label (builtin.payload (0 :: label) p)) = .error err := by
        rw [hc, ha]
        rfl
      rw [hresult]
      refine ⟨nofun, ?_⟩
      rintro err' ⟨⟩
      exact ((hread label).blames err ha).before _
  | ok a =>
      have hss : ∀ s ∈ ss, s.Accepted := (hread label).accepted a ha
      have hother : ∀ label', ∃ a', read label' = .ok a' := fun label' => (hread label').exists_ok hss
      cases hbuild : build a with
      | ok rule =>
          -- with another label there is something else to build from, which cannot be refused either
          have haccepted : Site.Accepted ⟨.root, token, p⟩ := by
            intro label'
            obtain ⟨a', ha'⟩ := hother label'
            cases hbuild' : build a' with
            | ok rule' =>
                refine ⟨.rule label' rule', (decoded_directive_eq_ok_iff hfind).mpr ?_⟩
                rw [hbuilt ha', hbuild']
                rfl
            | error source =>
                have hsource := hsame label' label a' a source ha' ha hbuild'
                rw [hbuild] at hsource
                cases hsource
          have hresult : ofConstructor token (c label (builtin.payload (0 :: label) p))
              = .ok (.rule label rule) := by
            rw [hbuilt ha, hbuild]
            rfl
          rw [hresult]
          refine ⟨fun _ _ => ?_, nofun⟩
          exact List.forall_mem_append.mpr ⟨hss, List.forall_mem_singleton.mpr haccepted⟩
      | error source =>
          -- all sites before the directive are accepted, and the directive is refused
          have hsource : ∀ inner, source ≠ .nested inner := by
            rintro inner rfl
            exact hown a inner hbuild
          have hcheck : ∀ label', c label' (builtin.payload (0 :: label') p) = .error source := by
            intro label'
            obtain ⟨a', ha'⟩ := hother label'
            rw [hbuilt ha', hsame label label' a a' source ha ha' hbuild]
            rfl
          rw [hcheck, ofConstructor_error hsource]
          refine ⟨nofun, ?_⟩
          rintro err' ⟨⟩
          have hrefused : Site.Refused ⟨.root, token, p⟩ source :=
            ⟨hsource, hoperands hss, c, hfind, hcheck⟩
          exact ⟨ss, _, [], source, rfl, rfl, hrefused, hss⟩

/-- A directive without operands is judged by itself alone. -/
theorem judged_alone (result : Except RuleError Rule) (hfind : builtin.find? token = some c)
    (hsites : operandSites token p = []) (hoperands : operands token p = [])
    (hc : ∀ label, c label (builtin.payload (0 :: label) p)
      = result >>= fun rule => .ok (.rule label rule)) (hown : OwnError result) (label : Label) :
    Judged (operandSites token p ++ [⟨.root, token, p⟩])
      (ofConstructor token (c label (builtin.payload (0 :: label) p))) := by
  have hnone : ∀ x ∈ operands token p, builtin.Decodes x := by
    rw [hoperands]
    exact List.forall_mem_nil _
  rw [hsites]
  exact judged_directive (fun _ => .ok ()) (fun _ => result) hfind hc (fun _ => .ok ()) (fun _ => hown)
    (fun _ _ _ _ _ _ _ h => h) (fun _ => hnone) label

/-- A plain payload holds no operands, whatever it looks like. -/
theorem judged_value {build : Json → Except RuleError Rule} (hreading : reading token = .value)
    (hfind : builtin.find? token = some (ofJson build)) (hown : ∀ j, OwnError (build j)) (label : Label) :
    Judged (operandSites token p ++ [⟨.root, token, p⟩])
      (ofConstructor token (ofJson build label (builtin.payload (0 :: label) p))) := by
  have hsites : operandSites token p = [] := by unfold operandSites; rw [hreading]
  have hoperands : operands token p = [] := by unfold operands; rw [hreading]
  refine judged_alone (build p) hfind hsites hoperands ?_ (hown p) label
  intro label
  rw [ofJson, json_payload]
  rfl

/-- One operand: the constructor sees of it no more than whether there is a rule in it. -/
theorem judged_operand {build : Expected → Except RuleError Rule} (hreading : reading token = .operand)
    (hfind : builtin.find? token = some (ofOperand build)) (hown : ∀ e, OwnError (build e))
    (hsame : ∀ e e' source, e.hasRule = e'.hasRule → build e = .error source → build e' = .error source)
    (hp : Judging p) (label : Label) :
    Judged (operandSites token p ++ [⟨.root, token, p⟩])
      (ofConstructor token (ofOperand build label (builtin.payload (0 :: label) p))) := by
  have hsites : operandSites token p = sites p := by unfold operandSites; rw [hreading]
  have hoperands : operands token p = [p] := by unfold operands; rw [hreading]
  rw [hsites]
  refine judged_directive (fun label => (builtin.payload (0 :: label) p).decoded) build hfind
    ?_ ?_ hown ?_ ?_ label
  · exact fun _ => rfl
  · exact fun label => hp (0 :: label)
  · -- whether there is a rule in the operand is said by the value, not by the label
    intro label label' e e' source he he'
    have hrule : e.hasRule = true ↔ e'.hasRule = true :=
      (hasRule_iff_hasDirective builtin_makesRules he).trans
        (hasRule_iff_hasDirective builtin_makesRules he').symm
    exact hsame e e' source (Bool.eq_iff_iff.mpr hrule)
  · intro hss
    rw [hoperands]
    exact List.forall_mem_singleton.mpr (hp.decodes hss)

/-- An array of operands: the constructor sees of them no more than how many there are. -/
theorem judged_operands {build : List Expected → Except RuleError Rule}
    (hreading : reading token = .operands) (hfind : builtin.find? token = some (ofOperands build))
    (hown : ∀ es, OwnError (build es))
    (hsame : ∀ es es' source, es.length = es'.length → build es = .error source →
      build es' = .error source)
    {items : List Json} (hitems : ∀ x ∈ items, Judging x) (label : Label) :
    Judged (operandSites token (.array items) ++ [⟨.root, token, .array items⟩])
      (ofConstructor token (ofOperands build label (builtin.payload (0 :: label) (.array items)))) := by
  have hsites : operandSites token (.array items) = sitesItems 0 items := by
    unfold operandSites; rw [hreading]
  have hoperands : operands token (.array items) = items := by unfold operands; rw [hreading]
  rw [hsites]
  refine judged_directive (fun label => decodedItems 0 (builtin.payloadItems (0 :: label) 0 items)) build
    hfind ?_ ?_ hown ?_ ?_ label
  · exact fun _ => rfl
  · exact fun label => judged_items hitems (0 :: label) 0 0
  · -- there are as many operands as items
    intro label label' es es' source hes hes'
    have hlength : items.length = es.length := (decodesTo_of_decodedItems hes).length_eq
    have hlength' : items.length = es'.length := (decodesTo_of_decodedItems hes').length_eq
    exact hsame es es' source (hlength.symm.trans hlength')
  · intro hss x hx
    rw [hoperands] at hx
    exact (hitems x hx).decodes ((forall_sitesItems_iff 0 items).mp hss x hx)

/-- A payload that should be an array and is none has no operands, and the directive fails by itself. -/
theorem judged_mistyped {build : List Expected → Except RuleError Rule}
    (hreading : reading token = .operands) (hfind : builtin.find? token = some (ofOperands build))
    (hp : ∀ items, p ≠ .array items) (label : Label) :
    Judged (operandSites token p ++ [⟨.root, token, p⟩])
      (ofConstructor token (ofOperands build label (builtin.payload (0 :: label) p))) := by
  have hsites : operandSites token p = [] := by
    unfold operandSites
    rw [hreading]
    cases p with
    | array items => exact absurd rfl (hp items)
    | _ => rfl
  have hoperands : operands token p = [] := by
    unfold operands
    rw [hreading]
    cases p with
    | array items => exact absurd rfl (hp items)
    | _ => rfl
  refine judged_alone (.error (.payload "array" p.kind)) hfind hsites hoperands ?_ nofun label
  intro label
  cases p with
  | array items => exact absurd rfl (hp items)
  | _ => rfl

/-- Every directive of the table is judged, by the way in which its constructor reads the payload. -/
theorem judged_builds (hfind : builtin.find? token = some c) (hp : Judging p)
    (hitems : ∀ items, p = .array items → ∀ x ∈ items, Judging x) (label : Label) :
    Judged (operandSites token p ++ [⟨.root, token, p⟩])
      (ofConstructor token (c label (builtin.payload (0 :: label) p))) := by
  cases builds_of_find? hfind with
  | value hreading hown => exact judged_value hreading hfind hown label
  | operand hreading hown hsame => exact judged_operand hreading hfind hown hsame hp label
  | operands hreading hown hsame =>
      by_cases harray : ∃ items, p = .array items
      · obtain ⟨items, rfl⟩ := harray
        exact judged_operands hreading hfind hown hsame (hitems items rfl) label
      · have hp' : ∀ items, p ≠ .array items := fun items h => harray ⟨items, h⟩
        exact judged_mistyped hreading hfind hp' label

end Building

/-- **Decoding is judged by the directives in the value.** -/
theorem judging (j : Json) : Judging j := by
  -- the operands of a directive are two levels down, so that the induction also speaks of items
  have h : Judging j ∧ ∀ items, j = .array items → ∀ x ∈ items, Judging x := by
    induction j using Json.induction with
    | array items ih =>
        have hitems : ∀ x ∈ items, Judging x := fun x hx => (ih x hx).1
        refine ⟨fun label => ?_, ?_⟩
        · rw [decoded_array, Judged.map_iff]
          exact judged_items hitems label 0 0
        · rintro items' ⟨⟩
          exact hitems
    | object members ih =>
        refine ⟨fun label => ?_, nofun⟩
        by_cases hdirective : builtin.IsDirective members
        · obtain ⟨token, p, rfl, hcontains⟩ := hdirective
          obtain ⟨c, hfind⟩ := Option.isSome_iff_exists.mp hcontains
          obtain ⟨hp, hitems⟩ := ih _ List.mem_cons_self
          rw [decoded_directive hfind, sites_directive hcontains]
          exact judged_builds hfind hp hitems label
        · have hmembers : ∀ m ∈ members, Judging m.2 := fun m hm => (ih m hm).1
          rw [decoded_document hdirective, sites_document hdirective, Judged.map_iff]
          exact judged_members hmembers label 0
    | _ => exact ⟨fun _ => .ok _, nofun⟩
  exact h.1

end Directive

/-- **A decoding error names the first directive that is refused, where it is and for what reason.** -/
theorem Registry.decode_error_blames {origin : Nat} {j : Json} {err : DecodeError}
    (h : Registry.builtin.decode origin j = .error err) :
    ∃ before s after source, sites j = before ++ s :: after ∧
      err = .directive s.token s.path source ∧ (∀ inner, source ≠ .nested inner) ∧
      s.Refused source ∧ ∀ d ∈ before, d.Accepted := by
  obtain ⟨before, s, after, source, hsites, herr, hrefused, hbefore⟩ := (judging j [origin]).blames err h
  exact ⟨before, s, after, source, hsites, herr, hrefused.own, hrefused, hbefore⟩

/-- Two directives in this value are refused: a number as a pattern, below `$not` and `$and`, and behind it a
number as a flag. -/
def Json.refusedTwice : Json :=
  .object [("a", .array [
    .object [("$and", .array [
      .object [("$eq", .integer 1)],
      .object [("b", .object [("$not", .object [("$regex", .integer 3)])])]])],
    .object [("$nil", .integer 0)]])]

/-- The first of the two errors is reported, with the path through both operators. -/
theorem decode_error_blames_below_not :
    Registry.builtin.decode 0 .refusedTwice
        = .error (.directive "$regex" ⟨[.key "a", .index 0, .index 1, .key "b"]⟩
            (.payload "string" "number")) ∧
      ∃ before s after, sites .refusedTwice = before ++ s :: after ∧
        s.token = "$regex" ∧ s.path = ⟨[.key "a", .index 0, .index 1, .key "b"]⟩ ∧
        s.Refused (.payload "string" "number") ∧ ∀ d ∈ before, d.Accepted := by
  have hdecode : Registry.builtin.decode 0 .refusedTwice
      = .error (.directive "$regex" ⟨[.key "a", .index 0, .index 1, .key "b"]⟩
          (.payload "string" "number")) := rfl
  obtain ⟨before, s, after, source, hsites, herr, -, hrefused, hbefore⟩ :=
    Registry.decode_error_blames hdecode
  obtain ⟨htoken, hpath, hsource⟩ := DecodeError.directive.inj herr
  rw [← hsource] at hrefused
  exact ⟨hdecode, before, s, after, hsites, htoken.symm, hpath.symm, hrefused, hbefore⟩

end Conformance
