import Agintor.Search.Crossover

/-!
# What a crossover grafts

The specification speaks of the policy class, the last class of its name among the statements of a
module. The code takes the last definition of a method in any class of a donor, and puts it in every
class of the base that a visit comes to.
-/

namespace Agintor.Search.Crossover

open Lib

/-! ## The policy class -/

def className? : Node → Option String
  | .node (.classDef name _) _ => some name
  | _ => none

/-- The body of the policy class. -/
def policyBody (cls : Option String) : List Node → Option (List Node)
  | [] => none
  | node :: rest =>
    match policyBody cls rest with
    | some items => some items
    | none => if className? node = cls ∧ cls ≠ none then some node.children else none

/-- A method of a class is the last of its name. -/
def methodOf (items : List Node) (name : String) : Option Node :=
  (items.filter fun item => functionName? item = some name).getLast?

/-- The method of the policy class of a file. -/
def methodIn (cls : Option String) (source : Source) (name : String) : Option Node :=
  match source with
  | .module body => (policyBody cls body).bind (methodOf · name)
  | .text _ => none

/-- Change the body of the policy class, and nothing else. -/
def editPolicyClass (cls : Option String) (edit : List Node → List Node) : List Node → List Node
  | [] => []
  | node :: rest =>
    if (policyBody cls rest).isSome then node :: editPolicyClass cls edit rest
    else if className? node = cls ∧ cls ≠ none then .node node.label (edit node.children) :: rest
    else node :: rest

/-- The bodies of the other classes that a visit comes to. -/
def otherClasses (cls : Option String) : List Node → List (List Node)
  | [] => []
  | node :: rest =>
    if (policyBody cls rest).isSome then node.top isClassDef ++ otherClasses cls rest
    else if className? node = cls ∧ cls ≠ none then RoseTree.tops isClassDef rest
    else RoseTree.tops isClassDef (node :: rest)

variable {name : String}

lemma eq_classDef_of_className? {node : Node} (h : className? node = some name) :
    ∃ header items, node = .node (.classDef name header) items := by
  match node, h with
  | .node (.classDef _ header) items, rfl => exact ⟨header, items, rfl⟩

/-- A module has no policy class, or it stands between statements of which the later ones are no
such class. -/
lemma policyClass_cases (cls : Option String) (body : List Node) :
    (policyBody cls body = none ∧ (∀ edit, editPolicyClass cls edit body = body) ∧
      otherClasses cls body = RoseTree.tops isClassDef body) ∨
    ∃ before name header items after,
      body = before ++ .node (.classDef name header) items :: after ∧
      policyBody cls body = some items ∧
      (∀ edit, editPolicyClass cls edit body =
        before ++ .node (.classDef name header) (edit items) :: after) ∧
      otherClasses cls body =
        RoseTree.tops isClassDef before ++ RoseTree.tops isClassDef after := by
  induction body with
  | nil => exact .inl ⟨rfl, fun _ => rfl, rfl⟩
  | cons node rest ih =>
    rcases ih with ⟨hnone, -, -⟩ | ⟨before, name, header, items, after, rfl, hsome, hedit, hother⟩
    · by_cases hclass : className? node = cls ∧ cls ≠ none
      · obtain ⟨name, hname⟩ := Option.ne_none_iff_exists'.mp hclass.2
        obtain ⟨header, items, rfl⟩ := eq_classDef_of_className? (hclass.1.trans hname)
        refine .inr ⟨[], name, header, items, rest, rfl, ?_, fun edit => ?_, ?_⟩
        · rw [policyBody, hnone]
          exact if_pos hclass
        · rw [editPolicyClass, hnone]
          exact if_pos hclass
        · rw [otherClasses, hnone]
          exact if_pos hclass
      · refine .inl ⟨?_, fun edit => ?_, ?_⟩
        · rw [policyBody, hnone]
          exact if_neg hclass
        · rw [editPolicyClass, hnone]
          exact if_neg hclass
        · rw [otherClasses, hnone]
          exact if_neg hclass
    · refine .inr ⟨node :: before, name, header, items, after, rfl, ?_, fun edit => ?_, ?_⟩
      · rw [policyBody, hsome]
      · rw [editPolicyClass, hsome, hedit]
        rfl
      · rw [otherClasses, hsome, hother]
        exact (List.append_assoc _ _ _).symm

variable {replacements replacements' : String → Option Node}

lemma replaceMethods_eq_iff {items : List Node} :
    replaceMethods replacements items = replaceMethods replacements' items ↔
      ∀ item ∈ items, ∀ name, functionName? item = some name →
        (replacements name).getD item = (replacements' name).getD item := by
  unfold replaceMethods
  rw [List.map_inj_left]
  refine forall₂_congr fun item _ => ?_
  cases functionName? item with
  | none => simp
  | some name => simp

lemma replaceMethods_eq_self_iff {replacements : String → Option Node} {items : List Node} :
    replaceMethods replacements items = items ↔
      ∀ item ∈ items, ∀ name, functionName? item = some name →
        (replacements name).getD item = item := by
  unfold replaceMethods
  conv_lhs => rhs; rw [← List.map_id items]
  rw [List.map_inj_left]
  refine forall₂_congr fun item _ => ?_
  cases functionName? item with
  | none => simp
  | some name => simp

/-- A visit edits the policy class alone if and only if it leaves the other classes as they are. -/
theorem visit_eq_editPolicyClass_iff (cls : Option String) (body : List Node) :
    visit replacements body = editPolicyClass cls (replaceMethods replacements') body ↔
      (∀ items, policyBody cls body = some items →
        replaceMethods replacements items = replaceMethods replacements' items) ∧
      ∀ items ∈ otherClasses cls body, replaceMethods replacements items = items := by
  unfold visit
  rcases policyClass_cases cls body with ⟨hnone, hedit, hother⟩ |
    ⟨before, name, header, items, after, rfl, hsome, hedit, hother⟩
  · rw [hnone, hedit, hother, RoseTree.editTops_eq_self_iff]
    exact (and_iff_right fun _ h => absurd h.symm (Option.some_ne_none _)).symm
  · have hmiddle : RoseTree.editTop isClassDef (replaceMethods replacements)
        (.node (.classDef name header) items) =
        .node (.classDef name header) (replaceMethods replacements items) := rfl
    rw [hedit, hother, hsome, List.forall_mem_append, RoseTree.editTops_append, RoseTree.editTops,
      hmiddle, ← RoseTree.editTops_eq_self_iff, ← RoseTree.editTops_eq_self_iff]
    constructor
    · intro h
      obtain ⟨hbefore, hrest⟩ := List.append_inj h (RoseTree.length_editTops before)
      obtain ⟨hitems, hafter⟩ := List.cons.inj hrest
      refine ⟨fun items' hitems' => ?_, hbefore, hafter⟩
      cases hitems'
      exact (RoseTree.node.inj hitems).2
    · rintro ⟨hitems, hbefore, hafter⟩
      rw [hbefore, hafter, hitems items rfl]

/-! ## The methods of the donors -/

/-- The definitions of a method in the classes of a file, in the order of the walk. -/
def definitions (name : String) (body : List Node) : List Node :=
  ((RoseTree.walk body).flatMap (wantedMethods [name])).map Prod.snd

lemma fst_eq_of_mem_wantedMethods {node : Node} {entry : String × Node}
    (h : entry ∈ wantedMethods [name] node) : entry.1 = name := by
  unfold wantedMethods at h
  split at h
  · obtain ⟨item, -, hitem⟩ := List.mem_filterMap.mp h
    split at hitem
    · split at hitem
      · next hname =>
        cases hitem
        exact List.mem_singleton.mp hname
      · cases hitem
    · cases hitem
  · cases h

/-- One key assigned again and again has the last value. -/
lemma get?_foldl_set_of_const {entries : List (String × Node)}
    (h : ∀ entry ∈ entries, entry.1 = name) :
    (entries.foldl (fun methods (name, item) => methods.set name item) Dict.empty).get? name =
      (entries.map Prod.snd).getLast? := by
  induction entries using List.reverseRecOn with
  | nil => rfl
  | append_singleton entries entry ih =>
    rw [List.foldl_append, List.foldl_cons, List.foldl_nil, Dict.get?_set,
      if_pos (h entry (by simp)), List.map_append, List.map_singleton, List.getLast?_concat]

lemma get?_extractMethods (name : String) (body : List Node) :
    (extractMethods body [name]).get? name = (definitions name body).getLast? := by
  refine get?_foldl_set_of_const fun entry hentry => ?_
  obtain ⟨node, -, hnode⟩ := List.mem_flatMap.mp hentry
  exact fst_eq_of_mem_wantedMethods hnode

/-- What `_extract_methods` finds of a method in a file. -/
def found (source : Source) (name : String) : Option Node :=
  match source with
  | .module body => (definitions name body).getLast?
  | .text _ => none

section Choose

variable {fileName : String} {donors : List (RuntimeDir × Source)} {h : donors ≠ []}

variable {methods : List String} {chosen : Dict String Node} {idx : ℕ}

lemma chooseMethods_cons_eq_ok_iff {name : String} {chosen chosen' : Dict String Node} :
    chooseMethods fileName donors h idx (name :: methods) chosen = .ok chosen' ↔
      ∃ definition, found (turn donors h idx).2 name = some definition ∧ name ∉ chosen.keys ∧
        chooseMethods fileName donors h (idx + 1) methods (chosen.set name definition) =
          .ok chosen' := by
  rw [chooseMethods]
  match turn donors h idx with
  | (donor, .text _) => exact iff_of_false (by simp [parse]) (by simp [found])
  | (donor, .module body) =>
    have hfound : found (.module body) name = (extractMethods body [name]).get? name :=
      (get?_extractMethods name body).symm
    rw [← Dict.contains_iff_mem_keys]
    cases hget : (extractMethods body [name]).get? name with
    | none => simp [parse, hfound, hget]
    | some definition =>
      by_cases hcontains : chosen.contains name = true
      · simp [parse, hfound, hget, hcontains]
      · simp [parse, hfound, hget, hcontains]

lemma chooseMethods_cons_error {name : String} {e : Error}
    (he : chooseMethods fileName donors h idx (name :: methods) chosen = .error e) :
    (∀ body, (turn donors h idx).2 ≠ .module body) ∨ (∃ message, e = .validation message) ∨
      ∃ definition, chooseMethods fileName donors h (idx + 1) methods
        (chosen.set name definition) = .error e := by
  rw [chooseMethods] at he
  match hturn : turn donors h idx, he with
  | (donor, .text _), _ => exact .inl fun _ heq => by cases heq
  | (donor, .module body), he =>
    right
    cases hget : (extractMethods body [name]).get? name with
    | none =>
      simp only [parse, ok_bind, hget, Except.error.injEq] at he
      exact .inl ⟨_, he.symm⟩
    | some definition =>
      simp only [parse, ok_bind, hget] at he
      split at he
      · exact .inl ⟨_, (Except.error.inj he).symm⟩
      · exact .inr ⟨definition, he⟩

/-- The methods chosen are what is found in the donors, each at its turn. -/
lemma get?_of_chooseMethods {chosen chosen' : Dict String Node}
    (hok : chooseMethods fileName donors h idx methods chosen = .ok chosen') :
    methods.Nodup ∧ (∀ name ∈ methods, name ∉ chosen.keys) ∧
      (∀ name, name ∉ methods → chosen'.get? name = chosen.get? name) ∧
      ∀ i name, methods[i]? = some name → ∃ definition,
        found (turn donors h (idx + i)).2 name = some definition ∧
          chosen'.get? name = some definition := by
  induction methods generalizing idx chosen with
  | nil =>
    obtain rfl : chosen = chosen' := by simpa [chooseMethods] using hok
    exact ⟨List.nodup_nil, by simp, fun _ _ => rfl, by simp⟩
  | cons first methods ih =>
    obtain ⟨definition, hfound, hfresh, hrest⟩ := chooseMethods_cons_eq_ok_iff.mp hok
    obtain ⟨hnodup, hnew, hframe, hget⟩ := ih hrest
    have hnot : first ∉ methods := fun hmem => hnew first hmem (Dict.mem_keys_set.mpr (.inl rfl))
    refine ⟨List.nodup_cons.mpr ⟨hnot, hnodup⟩, fun name hname => ?_, fun name hname => ?_,
      fun i name hi => ?_⟩
    · rcases List.mem_cons.mp hname with rfl | hname
      · exact hfresh
      · exact fun hkey => hnew name hname (Dict.mem_keys_set.mpr (.inr hkey))
    · obtain ⟨hne, hname⟩ := not_or.mp (List.mem_cons.not.mp hname)
      rw [hframe name hname, Dict.get?_set, if_neg (Ne.symm hne)]
    · cases i with
      | zero =>
        obtain rfl : first = name := by simpa using hi
        refine ⟨definition, hfound, ?_⟩
        rw [hframe first hnot, Dict.get?_set, if_pos rfl]
      | succ i =>
        have hi' := hget i name (by simpa using hi)
        rwa [Nat.add_right_comm, Nat.add_assoc] at hi'

lemma exists_chooseMethods (hnodup : methods.Nodup) (hfresh : ∀ name ∈ methods, name ∉ chosen.keys)
    (hfound : ∀ i name, methods[i]? = some name →
      (found (turn donors h (idx + i)).2 name).isSome = true) :
    ∃ chosen', chooseMethods fileName donors h idx methods chosen = .ok chosen' := by
  induction methods generalizing idx chosen with
  | nil => exact ⟨chosen, rfl⟩
  | cons first methods ih =>
    obtain ⟨definition, hdefinition⟩ := Option.isSome_iff_exists.mp (hfound 0 first rfl)
    obtain ⟨hnot, hnodup⟩ := List.nodup_cons.mp hnodup
    have hrest : ∃ chosen', chooseMethods fileName donors h (idx + 1) methods
        (chosen.set first definition) = .ok chosen' := by
      refine ih hnodup (fun name hname hkey => ?_) fun i name hi => ?_
      · rcases Dict.mem_keys_set.mp hkey with rfl | hkey
        · exact hnot hname
        · exact hfresh name (List.mem_cons_of_mem _ hname) hkey
      · rw [Nat.add_right_comm, Nat.add_assoc]
        exact hfound (i + 1) name hi
    obtain ⟨chosen', hchosen⟩ := hrest
    exact ⟨chosen', chooseMethods_cons_eq_ok_iff.mpr
      ⟨definition, hdefinition, hfresh first List.mem_cons_self, hchosen⟩⟩

/-- Once every donor asked parses, only a `ValidationError` is raised. -/
lemma validation_of_chooseMethods {e : Error} (hparse : ∀ i name, methods[i]? = some name →
      ∃ body, (turn donors h (idx + i)).2 = .module body)
    (he : chooseMethods fileName donors h idx methods chosen = .error e) :
    ∃ message, e = .validation message := by
  induction methods generalizing idx chosen with
  | nil => cases he
  | cons first methods ih =>
    rcases chooseMethods_cons_error he with htext | hmessage | ⟨definition, hrest⟩
    · obtain ⟨body, hbody⟩ := hparse 0 first rfl
      exact absurd hbody (htext body)
    · exact hmessage
    · refine ih (fun i name hi => ?_) hrest
      rw [Nat.add_right_comm, Nat.add_assoc]
      exact hparse (i + 1) name hi

end Choose

/-! ## One interface after the other -/

section Run

variable {childPath : String} {donors : List RuntimeDir}

lemma policyFileByInterface_injective {i j fileName : String}
    (hi : policyFileByInterface i = some fileName) (hj : policyFileByInterface j = some fileName) :
    i = j := by
  unfold policyFileByInterface at hi hj
  split at hi <;> split at hj <;> first
    | rfl
    | exact absurd (hi.trans hj.symm) (by decide)
    | cases hi

variable {entry : String × List String}

variable (childPath donors) in
/-- What a round of the loop reads is the policy file of the child. -/
lemma graftInterface_congr {files files' : Files}
    (h : ∀ fileName, policyFileByInterface entry.1 = some fileName →
      files.get? fileName = files'.get? fileName) :
    (∀ e, graftInterface childPath donors files entry = .error e →
      graftInterface childPath donors files' entry = .error e) ∧
    ∀ g, graftInterface childPath donors files entry = .ok g →
      ∃ g', graftInterface childPath donors files' entry = .ok g' ∧
        ∀ fileName, policyFileByInterface entry.1 = some fileName →
          g.get? fileName = g'.get? fileName := by
  obtain ⟨interface, methods⟩ := entry
  unfold graftInterface
  cases hfile : policyFileByInterface interface with
  | none =>
    simp only [hfile]
    exact ⟨fun e he => he, fun g hg => by cases hg⟩
  | some fileName =>
    simp only [hfile]
    have hsame := h fileName hfile
    by_cases hdonors : donorsWith fileName donors = []
    · simp only [hdonors, dite_true]
      refine ⟨fun e he => (by cases he), fun g hg => ⟨files', rfl, fun fileName' hfile' => ?_⟩⟩
      obtain rfl := Except.ok.inj hg
      obtain rfl := Option.some.inj hfile'
      exact hsame
    · simp only [hdonors, dite_false, ← hsame]
      cases chooseMethods fileName (donorsWith fileName donors) hdonors 0 methods .empty with
      | error e => exact ⟨fun e he => he, fun g hg => by cases hg⟩
      | ok chosen =>
        cases files.get? fileName with
        | none => exact ⟨fun e he => he, fun g hg => by cases hg⟩
        | some source =>
          cases source with
          | text content => exact ⟨fun e he => he, fun g hg => by cases hg⟩
          | module body =>
            refine ⟨fun e he => (by cases he), fun g hg => ⟨_, rfl, fun fileName' hfile' => ?_⟩⟩
            obtain rfl := Except.ok.inj hg
            obtain rfl := Option.some.inj hfile'
            rw [Dict.get?_set, Dict.get?_set, if_pos rfl, if_pos rfl]

/-- A round leaves every other file as it is. -/
lemma get?_of_graftInterface {files g : Files} {fileName : String}
    (hg : graftInterface childPath donors files entry = .ok g)
    (h : policyFileByInterface entry.1 ≠ some fileName) :
    g.get? fileName = files.get? fileName := by
  obtain ⟨interface, methods⟩ := entry
  unfold graftInterface at hg
  cases hfile : policyFileByInterface interface with
  | none => simp [hfile] at hg
  | some written =>
    simp only [hfile] at hg
    split at hg
    · rw [Except.ok.inj hg]
    · obtain ⟨chosen, -, hg⟩ := bind_eq_ok_iff.mp hg
      split at hg
      · cases hg
      · obtain ⟨body, -, hg⟩ := bind_eq_ok_iff.mp hg
        rw [← Except.ok.inj hg, Dict.get?_set, if_neg]
        rintro rfl
        exact h hfile

lemma graftInterfaces_cons (files : Files) (entry : String × List String)
    (entries : List (String × List String)) :
    graftInterfaces childPath donors (entry :: entries) files =
      match graftInterface childPath donors files entry with
      | .ok g => graftInterfaces childPath donors entries g
      | .error e => (.error e, files) := by
  show Stateful.andThen _ _ files = _
  unfold Stateful.andThen Stateful.atomically
  beta_reduce
  cases graftInterface childPath donors files entry with
  | ok g => rfl
  | error e => rfl

variable (childPath donors) in
/-- The loop, from files that have the policy files of the rounds to come as the base has them: it
returns with what each round by itself makes of the base, or raises what one of them raises. -/
theorem graftInterfaces_spec {base files : Files} {entries : List (String × List String)}
    (hnodup : (entries.map Prod.fst).Nodup)
    (hsame : ∀ entry ∈ entries, ∀ fileName, policyFileByInterface entry.1 = some fileName →
      files.get? fileName = base.get? fileName) :
    match graftInterfaces childPath donors entries files with
    | (.ok (), files') => (∀ fileName,
          (∀ entry ∈ entries, policyFileByInterface entry.1 ≠ some fileName) →
            files'.get? fileName = files.get? fileName) ∧
        ∀ entry ∈ entries, ∃ g, graftInterface childPath donors base entry = .ok g ∧
          ∀ fileName, policyFileByInterface entry.1 = some fileName →
            files'.get? fileName = g.get? fileName
    | (.error e, _) =>
      ∃ entry ∈ entries, graftInterface childPath donors base entry = .error e := by
  induction entries generalizing files with
  | nil => exact ⟨fun _ _ => rfl, fun _ h => by cases h⟩
  | cons entry entries ih =>
    obtain ⟨hnot, hnodup⟩ := List.nodup_cons.mp hnodup
    have hcongr := graftInterface_congr childPath donors
      (hsame entry List.mem_cons_self)
    rw [graftInterfaces_cons]
    cases hround : graftInterface childPath donors files entry with
    | error e => exact ⟨entry, List.mem_cons_self, hcongr.1 e hround⟩
    | ok g =>
      obtain ⟨g', hg', hfile⟩ := hcongr.2 g hround
      -- the files of the rounds to come are not the one just written
      have hother : ∀ later ∈ entries, ∀ fileName, policyFileByInterface later.1 = some fileName →
          policyFileByInterface entry.1 ≠ some fileName := by
        intro later hlater fileName hl he
        rw [policyFileByInterface_injective he hl] at hnot
        exact hnot (List.mem_map_of_mem hlater)
      have hrest := ih hnodup fun later hlater fileName hl =>
        (get?_of_graftInterface hround (hother later hlater fileName hl)).trans
          (hsame later (List.mem_cons_of_mem _ hlater) fileName hl)
      show match graftInterfaces childPath donors entries g with
        | (.ok (), files') => _
        | (.error e, _) => _
      match hrun : graftInterfaces childPath donors entries g, hrest with
      | (.error e, _), ⟨later, hlater, he⟩ => exact ⟨later, List.mem_cons_of_mem _ hlater, he⟩
      | (.ok (), files'), ⟨hframe, hdone⟩ =>
        refine ⟨fun fileName hnone => ?_, fun done hdone' => ?_⟩
        · rw [hframe fileName fun later hlater => hnone later (List.mem_cons_of_mem _ hlater)]
          exact get?_of_graftInterface hround (hnone entry List.mem_cons_self)
        · rcases List.mem_cons.mp hdone' with rfl | hlater
          · refine ⟨g', hg', fun fileName hf => ?_⟩
            rw [hframe fileName fun later hlater hl => hother later hlater fileName hl hf]
            exact hfile fileName hf
          · exact hdone done hlater

end Run

/-! ## What is asked for -/

/-- An interface of the request whose policy file some donor has. -/
structure Round (base : RuntimeDir) (donors : List RuntimeDir)
    (interfaceMethods : Dict String (List String)) where
  interface : String
  methods : List String
  fileName : String
  mem : (interface, methods) ∈ interfaceMethods.entries
  known : policyFileByInterface interface = some fileName
  hasDonor : donorsWith fileName donors ≠ []

section Specification

variable {base : RuntimeDir} {donors : List RuntimeDir}
  {interfaceMethods : Dict String (List String)}

namespace Round

variable (round : Round base donors interfaceMethods)

/-- The donor for a method, the index modulo the number of donors that have the file, with its
file. -/
def donor (idx : ℕ) : RuntimeDir × Source :=
  turn (donorsWith round.fileName donors) round.hasDonor idx

/-- The definition in the policy class of the donor. -/
def wanted (idx : ℕ) (name : String) : Option Node :=
  methodIn ((round.donor idx).1.policyClass.get? round.interface) (round.donor idx).2 name

/-- The definition that the policy class of the base has. -/
def replaced (name : String) : Option Node :=
  (base.files.get? round.fileName).bind fun source =>
    methodIn (base.policyClass.get? round.interface) source name

/-- What is to take the place of each method. -/
def graft (name : String) : Option Node :=
  (round.methods.idxOf? name).bind fun idx => round.wanted idx name

/-- The file of the child is that of the base with each requested method from its donor. -/
structure Grafted (child : Source) : Prop where
  each : ∀ idx name, round.methods[idx]? = some name →
    round.wanted idx name ≠ none ∧ round.replaced name ≠ none
  file : ∃ body, base.files.get? round.fileName = some (.module body) ∧ child = .module
    (editPolicyClass (base.policyClass.get? round.interface) (replaceMethods round.graft) body)

/-- Some requested method cannot be grafted. -/
def Ungraftable : Prop :=
  ∃ idx name, round.methods[idx]? = some name ∧
    (round.wanted idx name = none ∨
      (∃ idx', idx' ≠ idx ∧ round.methods[idx']? = some name) ∨ round.replaced name = none)

/-- For a method the code does what is asked: the definition it finds in the donor is that of the
policy class, the policy class of the base has the method, and any other class of the base that is
visited has this very definition already. -/
structure Exact (idx : ℕ) (name : String) : Prop where
  found : found (round.donor idx).2 name = round.wanted idx name
  replaced : round.replaced name ≠ none
  elsewhere : ∀ body, base.files.get? round.fileName = some (.module body) →
    ∀ items ∈ otherClasses (base.policyClass.get? round.interface) body, ∀ item ∈ items,
      functionName? item = some name → round.wanted idx name = some item

end Round

/-- The interface is known, and what is read of the policy files parses. -/
def Reads (base : RuntimeDir) (donors : List RuntimeDir) (entry : String × List String) : Prop :=
  ∃ fileName, policyFileByInterface entry.1 = some fileName ∧
    ∀ h : donorsWith fileName donors ≠ [],
      (∃ body, base.files.get? fileName = some (.module body)) ∧
        ∀ idx name, entry.2[idx]? = some name →
          ∃ body, (turn (donorsWith fileName donors) h idx).2 = .module body

/-- Moreover no method is requested twice, and some class of its donor has each. -/
def Returns (base : RuntimeDir) (donors : List RuntimeDir) (entry : String × List String) : Prop :=
  ∃ fileName, policyFileByInterface entry.1 = some fileName ∧
    ∀ h : donorsWith fileName donors ≠ [],
      (∃ body, base.files.get? fileName = some (.module body)) ∧ entry.2.Nodup ∧
        ∀ idx name, entry.2[idx]? = some name →
          found (turn (donorsWith fileName donors) h idx).2 name ≠ none

section

variable (stableHash : String → List String → Dict String (List String) → String)
  (base donors interfaceMethods)

structure GraftsExactly : Prop where
  grafted : ∀ workspace name workspace',
    crossoverRuntime stableHash base donors interfaceMethods workspace = (.ok name, workspace') →
      ∃ child, workspace'.get? name = some child ∧
        ∀ round : Round base donors interfaceMethods,
          ∃ source, child.files.get? round.fileName = some source ∧ round.Grafted source
  rejected : (∀ entry ∈ interfaceMethods.entries, Reads base donors entry) →
    (∃ round : Round base donors interfaceMethods, round.Ungraftable) →
      ∀ workspace, ∃ message,
        (crossoverRuntime stableHash base donors interfaceMethods workspace).1 =
          .error (.validation message)
  /-- Nothing depends on what an earlier crossover left. -/
  afresh : ∀ workspace workspace',
    (crossoverRuntime stableHash base donors interfaceMethods workspace).1 =
        (crossoverRuntime stableHash base donors interfaceMethods workspace').1 ∧
      (crossoverRuntime stableHash base donors interfaceMethods workspace).2.get?
          (childName stableHash base donors interfaceMethods) =
        (crossoverRuntime stableHash base donors interfaceMethods workspace').2.get?
          (childName stableHash base donors interfaceMethods)

end

/-! ## A round by itself -/

variable {entry : String × List String}

variable {round : Round base donors interfaceMethods} {childPath : String}

/-- What a round that returned has put into the policy file of the child. -/
lemma of_graftInterface {g : Files}
    (hg : graftInterface childPath donors base.files entry = .ok g) :
    Returns base donors entry ∧
      ∀ fileName, policyFileByInterface entry.1 = some fileName →
        ∀ h : donorsWith fileName donors ≠ [], ∃ body chosen,
          base.files.get? fileName = some (.module body) ∧
            g.get? fileName = some (.module (visit (Dict.get? chosen) body)) ∧
            (∀ name, name ∉ entry.2 → chosen.get? name = none) ∧
            ∀ idx name, entry.2[idx]? = some name →
              chosen.get? name = found (turn (donorsWith fileName donors) h idx).2 name := by
  obtain ⟨interface, methods⟩ := entry
  unfold graftInterface at hg
  cases hfile : policyFileByInterface interface with
  | none => simp [hfile] at hg
  | some fileName =>
    simp only [hfile] at hg
    by_cases hdonors : donorsWith fileName donors = []
    · refine ⟨⟨fileName, hfile, fun h => absurd hdonors h⟩, fun fileName' hfile' h => ?_⟩
      obtain rfl := Option.some.inj hfile'
      exact absurd hdonors h
    · rw [dif_neg hdonors] at hg
      obtain ⟨chosen, hchosen, hg⟩ := bind_eq_ok_iff.mp hg
      obtain ⟨hnodup, -, hnone, hget⟩ := get?_of_chooseMethods hchosen
      cases hsource : base.files.get? fileName with
      | none => simp [hsource] at hg
      | some source =>
        simp only [hsource] at hg
        cases source with
        | text content => cases hg
        | module body =>
          obtain rfl := Except.ok.inj hg
          refine ⟨⟨fileName, hfile, fun _ => ⟨⟨body, hsource⟩, hnodup, fun idx name hidx => ?_⟩⟩,
            fun fileName' hfile' _ => ?_⟩
          · obtain ⟨definition, hfound, -⟩ := hget idx name hidx
            rw [Nat.zero_add] at hfound
            rw [hfound]
            exact Option.some_ne_none _
          · obtain rfl := Option.some.inj hfile'
            refine ⟨body, chosen, hsource, by rw [Dict.get?_set, if_pos rfl], hnone,
              fun idx name hidx => ?_⟩
            obtain ⟨definition, hfound, hchosen⟩ := hget idx name hidx
            rw [Nat.zero_add] at hfound
            rw [hchosen, hfound]

lemma exists_graftInterface (childPath : String) (h : Returns base donors entry) :
    ∃ g, graftInterface childPath donors base.files entry = .ok g := by
  obtain ⟨interface, methods⟩ := entry
  obtain ⟨fileName, hfile, hreturns⟩ := h
  unfold graftInterface
  simp only [hfile]
  by_cases hdonors : donorsWith fileName donors = []
  · exact ⟨base.files, by rw [dif_pos hdonors]⟩
  · obtain ⟨⟨body, hbody⟩, hnodup, hfound⟩ := hreturns hdonors
    have hchoice : ∃ chosen, chooseMethods fileName (donorsWith fileName donors) hdonors 0 methods
        .empty = .ok chosen := by
      refine exists_chooseMethods hnodup (fun name _ hkey => by cases hkey) fun i name hi => ?_
      rw [Nat.zero_add]
      exact Option.isSome_iff_ne_none.mpr (hfound i name hi)
    obtain ⟨chosen, hchosen⟩ := hchoice
    rw [dif_neg hdonors, hchosen, ok_bind, hbody]
    exact ⟨_, rfl⟩

lemma validation_of_graftInterface {e : Error} (h : Reads base donors entry)
    (he : graftInterface childPath donors base.files entry = .error e) :
    ∃ message, e = .validation message := by
  obtain ⟨interface, methods⟩ := entry
  obtain ⟨fileName, hfile, hreads⟩ := h
  unfold graftInterface at he
  simp only [hfile] at he
  by_cases hdonors : donorsWith fileName donors = []
  · rw [dif_pos hdonors] at he
    cases he
  · obtain ⟨⟨body, hbody⟩, hparse⟩ := hreads hdonors
    rw [dif_neg hdonors, hbody] at he
    rcases bind_eq_error_iff.mp he with he | ⟨chosen, -, he⟩
    · refine validation_of_chooseMethods (fun i name hi => ?_) he
      rw [Nat.zero_add]
      exact hparse i name hi
    · cases he

/-! ## The whole crossover -/

lemma mem_of_policyBody {items : List Node} {name : String} {definition : Node}
    (h : methodOf items name = some definition) :
    definition ∈ items ∧ functionName? definition = some name := by
  have hmem := List.mem_of_getLast? h
  rw [List.mem_filter, decide_eq_true_eq] at hmem
  exact hmem

lemma Round.graft_eq {idx : ℕ} {name : String} (hnodup : round.methods.Nodup)
    (h : round.methods[idx]? = some name) : round.graft name = round.wanted idx name := by
  obtain ⟨hlt, hget⟩ := List.getElem?_eq_some_iff.mp h
  have hidx : round.methods.idxOf? name = some idx := by
    rw [← hget, List.idxOf?_eq_some_iff]
    refine ⟨hlt, rfl, fun j hj heq => ?_⟩
    have hsame : j = idx := hnodup.getElem_inj_iff.mp heq
    omega
  unfold Round.graft
  rw [hidx]
  rfl

lemma Round.graft_eq_none {name : String} (h : name ∉ round.methods) : round.graft name = none := by
  unfold Round.graft
  rw [List.idxOf?_eq_none_iff.mpr h]
  rfl

/-- The file that a round makes is the one asked for if and only if the code does what is asked for
each method. -/
theorem Round.grafted_iff (round : Round base donors interfaceMethods) {body : List Node}
    {chosen : String → Option Node} (hnodup : round.methods.Nodup)
    (hbody : base.files.get? round.fileName = some (.module body))
    (hnone : ∀ name, name ∉ round.methods → chosen name = none)
    (hchosen : ∀ idx name, round.methods[idx]? = some name →
      chosen name = found (round.donor idx).2 name)
    (hfound : ∀ idx name, round.methods[idx]? = some name →
      found (round.donor idx).2 name ≠ none) :
    round.Grafted (.module (visit chosen body)) ↔
      ∀ idx name, round.methods[idx]? = some name → round.Exact idx name := by
  set cls := base.policyClass.get? round.interface with hcls
  have hreplaced : ∀ name, round.replaced name = (policyBody cls body).bind (methodOf · name) := by
    intro name
    unfold Round.replaced
    rw [hbody, ← hcls]
    rfl
  constructor
  · rintro ⟨heach, body', hbody', hfile⟩ idx name hidx
    obtain rfl := Source.module.inj (Option.some.inj (hbody'.symm.trans hbody))
    obtain ⟨hpolicy, hother⟩ := (visit_eq_editPolicyClass_iff cls _).mp (Source.module.inj hfile)
    obtain ⟨hwanted, hmethod⟩ := heach idx name hidx
    obtain ⟨definition, hdefinition⟩ := Option.ne_none_iff_exists'.mp (hfound idx name hidx)
    have hchoice : chosen name = some definition := (hchosen idx name hidx).trans hdefinition
    have hsame : found (round.donor idx).2 name = round.wanted idx name := by
      -- the method of the policy class shows what took its place
      have hbind := hmethod
      rw [hreplaced] at hbind
      obtain ⟨old, hold⟩ := Option.ne_none_iff_exists'.mp hbind
      obtain ⟨items, hitems, hold⟩ := Option.bind_eq_some_iff.mp hold
      obtain ⟨hmem, hname⟩ := mem_of_policyBody hold
      have hold := replaceMethods_eq_iff.mp (hpolicy items hitems) old hmem name hname
      obtain ⟨new, hnew⟩ := Option.ne_none_iff_exists'.mp hwanted
      rw [hchoice, Round.graft_eq hnodup hidx, hnew] at hold
      rw [hdefinition, hnew]
      exact congrArg some hold
    refine ⟨hsame, hmethod, fun body'' hbody'' items hitems item hitem hname => ?_⟩
    obtain rfl := Source.module.inj (Option.some.inj (hbody''.symm.trans hbody))
    have hkept := replaceMethods_eq_self_iff.mp (hother items hitems) item hitem name hname
    rw [hchoice] at hkept
    rw [← hsame, hdefinition]
    exact congrArg some hkept
  · intro hexact
    refine ⟨fun idx name hidx => ?_, body, hbody, congrArg Source.module ?_⟩
    · rw [← (hexact idx name hidx).found]
      exact ⟨hfound idx name hidx, (hexact idx name hidx).replaced⟩
    · rw [← hcls, visit_eq_editPolicyClass_iff]
      refine ⟨fun items hitems => replaceMethods_eq_iff.mpr fun item hitem name hname => ?_,
        fun items hitems => replaceMethods_eq_self_iff.mpr fun item hitem name hname => ?_⟩
      · by_cases hmem : name ∈ round.methods
        · obtain ⟨idx, hidx⟩ := List.mem_iff_getElem?.mp hmem
          rw [hchosen idx name hidx, Round.graft_eq hnodup hidx, (hexact idx name hidx).found]
        · rw [hnone name hmem, Round.graft_eq_none hmem]
      · by_cases hmem : name ∈ round.methods
        · obtain ⟨idx, hidx⟩ := List.mem_iff_getElem?.mp hmem
          have hkept := (hexact idx name hidx).elsewhere body hbody items hitems item hitem hname
          rw [hchosen idx name hidx, (hexact idx name hidx).found, hkept]
          rfl
        · rw [hnone name hmem]
          rfl

variable (stableHash : String → List String → Dict String (List String) → String)

/-- A crossover either returns, with what each round by itself makes of the base, or raises what one
of them raises. -/
lemma crossoverRuntime_cases (base : RuntimeDir) (donors : List RuntimeDir)
    (interfaceMethods : Dict String (List String)) (workspace : Workspace) :
    (∃ files, crossoverRuntime stableHash base donors interfaceMethods workspace =
        (.ok (childName stableHash base donors interfaceMethods),
          (workspace.erase (childName stableHash base donors interfaceMethods)).set
            (childName stableHash base donors interfaceMethods)
            ⟨childName stableHash base donors interfaceMethods, base.policyClass, files⟩) ∧
      ∀ entry ∈ interfaceMethods.entries, ∃ g,
        graftInterface (childName stableHash base donors interfaceMethods) donors base.files entry =
          .ok g ∧ ∀ fileName, policyFileByInterface entry.1 = some fileName →
            files.get? fileName = g.get? fileName) ∨
    ∃ e, (crossoverRuntime stableHash base donors interfaceMethods workspace).1 = .error e ∧
      ∃ entry ∈ interfaceMethods.entries,
        graftInterface (childName stableHash base donors interfaceMethods) donors base.files entry =
          .error e := by
  have hspec := graftInterfaces_spec (childName stableHash base donors interfaceMethods) donors
    interfaceMethods.nodup
    (fun entry _ fileName _ => (rfl : base.files.get? fileName = base.files.get? fileName))
  unfold crossoverRuntime
  dsimp only
  match hrun : graftInterfaces (childName stableHash base donors interfaceMethods) donors
      interfaceMethods.entries base.files, hspec with
  | (.ok (), files), ⟨_, hdone⟩ => exact .inl ⟨files, rfl, hdone⟩
  | (.error e, files), hentry => exact .inr ⟨e, rfl, hentry⟩

lemma Round.grafted_iff_of_graftInterface (round : Round base donors interfaceMethods)
    {files g : Files}
    (hg : graftInterface childPath donors base.files (round.interface, round.methods) = .ok g)
    (hfiles : ∀ fileName, policyFileByInterface round.interface = some fileName →
      files.get? fileName = g.get? fileName) :
    ∃ source, files.get? round.fileName = some source ∧ (round.Grafted source ↔
      ∀ idx name, round.methods[idx]? = some name → round.Exact idx name) := by
  obtain ⟨⟨fileName, hfile, hreturns⟩, hmade⟩ := of_graftInterface hg
  obtain rfl := Option.some.inj (round.known.symm.trans hfile)
  obtain ⟨-, hnodup, hfound⟩ := hreturns round.hasDonor
  obtain ⟨body, chosen, hbody, hchild, hnone, hchosen⟩ :=
    hmade round.fileName round.known round.hasDonor
  exact ⟨_, (hfiles _ round.known).trans hchild,
    round.grafted_iff hnodup hbody hnone hchosen hfound⟩

/-- A runtime whose topology policy has one method. -/
def oneMethodRuntime (path method : String) : RuntimeDir where
  path := path
  policyClass := Dict.empty.set "top" "TopologyPolicy"
  files := Dict.empty.set "topology_policy.py" (.module
    [.node (.classDef "TopologyPolicy" "class TopologyPolicy:")
      [.node (.functionDef false method "def method(self):") []]])

end Specification

end Agintor.Search.Crossover
