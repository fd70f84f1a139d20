import Agintor.Factory.ReplaceDestination

/-!
# A replacement that raises may lose the destination

A replacement that returns keeps what it has to keep. One that raises keeps the old entries as long
as nothing was touched before. After the first entry was moved aside no step undoes the moves, and
the side directory is removed with the entries in it. An old entry then survives only where the copy
happens to carry the same one, or where it was already moved back.
-/

namespace Agintor.Factory.Destination

open Lib

/-! ## What a replacement promises -/

/-- Everything that stood at `old` stands at `place`. -/
def Place.Holds (place : Place) : Place → Prop
  | .absent => True
  | .file content => place = .file content
  | .directory entries => ∀ name tree, entries.get? name = some tree → place.get? name = some tree

def Place.IsDirectory (place : Place) : Prop := ∃ entries, place = .directory entries

/-- What a replacement leaves at the destination when it returns. -/
structure Replaced (r : Replacement) (old new : Place) : Prop where
  isDirectory : new.IsDirectory
  preserved : ∀ name ∈ r.preserveNames, ∀ tree, old.get? name = some tree →
    new.get? name = some tree
  copied : ∀ name tree, r.copied.get? name = some tree →
    name ∉ r.preserveNames ∨ old.get? name = none → new.get? name = some tree
  kept : ∀ name tree, old.get? name = some tree → r.copied.get? name = none →
    new.get? name = some tree
  nothingElse : ∀ name tree, new.get? name = some tree →
    old.get? name = some tree ∨ r.copied.get? name = some tree

/-- What a replacement leaves when it raises. -/
structure Unharmed (old : Place) (w : World) : Prop where
  held : w.destination.Holds old
  noOnlyCopy : ∀ name tree, w.preserveRoot.get? name = some tree → old.get? name = some tree →
    w.destination.get? name = some tree

/-- The side directory is named by a digest of the time: there is none before. -/
def start (old : Place) : World := ⟨old, .absent⟩

/-- A replacement is all or nothing, and loses nothing it should keep. -/
def LosesNothing (env : Environment) (r : Replacement) (old : Place) : Prop :=
  match replaceRuntimeDestination env r (start old) with
  | (.ok (), w) => Replaced r old w.destination
  | (.error _, w) => Unharmed old w

/-! ## When it is kept -/

section Condition

variable (env : Environment) (r : Replacement)

/-- An old entry that is moved back after the copy. -/
def goesBack (name : String) : Bool := r.preserveNames.contains name || !r.copied.contains name

def restoreSteps (name : String) : List Step :=
  if goesBack r name then
    if r.copied.contains name then [.clear name, .restore name] else [.restore name]
  else []

/-- The steps of a replacement at which nothing raises. -/
def steps (old : Place) : List Step :=
  if r.nested then [] else
  match old with
  | .absent => [.inspect, .copy]
  | .file _ => if r.force then [.inspect, .unlinkDestination, .copy] else [.inspect]
  | .directory old =>
    if r.force then
      .inspect :: .makePreserveRoot :: (old.keys.map .moveAside ++
        .removeDestination :: .copy :: old.keys.flatMap (restoreSteps r))
    else if old.entries.isEmpty then [.inspect, .removeDestination, .copy]
    else [.inspect]

/-- While `name` is moved back, the entries before it are back, the copy stands under the other
names, and `standing` under `name`. -/
def HarmlessRestore (old : Place) (name : String) (standing : Option Tree) : Prop :=
  match old with
  | .directory old => ∀ other tree, old.get? other = some tree →
    if name = other then standing = some tree
    else (other ∈ old.keys.takeWhile (· ≠ name) ∧ goesBack r other) ∨
      r.copied.get? other = some tree
  | _ => True

/-- The steps that may raise without harm: those before anything was touched, and a later one where
what stands in the destination happens to be every old entry. -/
def Harmless (old : Place) : Step → Prop
  | .inspect | .unlinkDestination | .makePreserveRoot | .clearAside _ => True
  | .moveAside name =>
    match old with
    | .directory old => old.keys.head? = some name ∧ env.left (.moveAside name) = old.get? name
    | _ => True
  | .removeDestination =>
    match old with
    | .directory old => old.entries = []
    | _ => True
  | .copy => env.halfCopied.Holds old
  | .clear name => HarmlessRestore r old name (env.left (.clear name))
  | .restore name => HarmlessRestore r old name (env.made (.restore name))

end Condition

/-! ## Places -/

section Places

variable {place : Place} {name other : String} {tree : Option Tree}

lemma Place.get?_put (h : place.IsDirectory) :
    (place.put name tree).get? other = if name = other then tree else place.get? other := by
  obtain ⟨entries, rfl⟩ := h
  cases tree with
  | none => exact Dict.get?_erase entries name other
  | some tree => exact Dict.get?_set entries name other tree

lemma Place.isDirectory_put (h : place.IsDirectory) : (place.put name tree).IsDirectory := by
  obtain ⟨entries, rfl⟩ := h
  cases tree with
  | none => exact ⟨_, rfl⟩
  | some tree => exact ⟨_, rfl⟩

lemma Place.Holds.refl (place : Place) : place.Holds place := by
  cases place with
  | absent => trivial
  | file content => rfl
  | directory entries => exact fun name tree h => h

lemma unharmed_iff {old : Place} {w : World} : Unharmed old w ↔ w.destination.Holds old := by
  refine ⟨Unharmed.held, fun h => ⟨h, fun name tree _ hold => ?_⟩⟩
  match old, h, hold with
  | .directory entries, h, hold => exact h name tree hold

end Places

/-! ## The program as a list of calls -/

section Program

variable {env : Environment} {r : Replacement}

def restoreCalls (env : Environment) (r : Replacement) (name : String) : List (Call Step World) :=
  if goesBack r name then
    if r.copied.contains name then [clear env name, restore env name] else [restore env name]
  else []

def calls (env : Environment) (r : Replacement) : Place → List (Call Step World)
  | .absent => [inspect, copy env r]
  | .file _ => if r.force then [inspect, unlinkDestination, copy env r] else [inspect]
  | .directory old =>
    if r.force then
      inspect :: makePreserveRoot :: (old.keys.map (moveAside env) ++
        removeDestination :: copy env r :: old.keys.flatMap (restoreCalls env r))
    else if old.entries.isEmpty then [inspect, removeDestination, copy env r]
    else [inspect]

lemma map_step_restoreCalls (name : String) :
    (restoreCalls env r name).map Call.step = restoreSteps r name := by
  unfold restoreCalls restoreSteps
  split
  · split
    · rfl
    · rfl
  · rfl

lemma map_step_calls (env : Environment) (hnested : r.nested = false) (old : Place) :
    (calls env r old).map Call.step = steps r old := by
  have hback (names : List String) : (names.flatMap (restoreCalls env r)).map Call.step =
      names.flatMap (restoreSteps r) := by
    rw [List.map_flatMap]
    simp only [map_step_restoreCalls]
  unfold steps
  rw [if_neg (by simp [hnested])]
  cases old with
  | absent => rfl
  | file content =>
    show (if r.force then _ else _ : List (Call Step World)).map Call.step = _
    split
    · rfl
    · rfl
  | directory old =>
    unfold calls
    dsimp only
    split
    · rw [List.map_cons, List.map_cons, List.map_append, List.map_cons, List.map_cons, hback,
        List.map_map]
      rfl
    · split
      · rfl
      · rfl

variable {old : Dict String Tree} {names : List String} {c : Call Step World} {w : World}

/-- No entry is in the side directory before it is moved there. -/
lemma moveEntriesAside_eq (hnodup : names.Nodup) (hroot : w.preserveRoot.IsDirectory)
    (hfresh : ∀ name ∈ names, w.preserveRoot.get? name = none) :
    moveEntriesAside env names w = Calls.run env.fails (names.map (moveAside env)) w := by
  induction names generalizing w with
  | nil => rfl
  | cons name names ih =>
    obtain ⟨hnot, hnodup⟩ := List.nodup_cons.mp hnodup
    have hname : ¬ (w.preserveRoot.get? name).isSome = true := by
      rw [hfresh name List.mem_cons_self]
      exact Bool.false_ne_true
    have hround : moveEntriesAside env (name :: names) w =
        ((moveAside env name).run env.fails >>= fun _ => moveEntriesAside env names) w := by
      show (if (w.preserveRoot.get? name).isSome then _ else _ : Stateful World String Unit) w = _
      rw [if_neg hname]
    rw [hround]
    refine Call.run_bind_congr (ih hnodup (Place.isDirectory_put hroot) fun other hother => ?_)
    show (w.preserveRoot.put name _).get? other = none
    rw [Place.get?_put hroot, if_neg (fun heq : name = other => hnot (heq ▸ hother))]
    exact hfresh other (List.mem_cons_of_mem _ hother)

/-- The destination that the copy left has the names of the source, as long as they are not moved
back. -/
lemma restoreEntries_eq (hnodup : names.Nodup) (hdirectory : w.destination.IsDirectory)
    (hnames : ∀ name ∈ names, (w.destination.get? name).isSome = r.copied.contains name) :
    restoreEntries env r names w =
      Calls.run env.fails (names.flatMap (restoreCalls env r)) w := by
  induction names generalizing w with
  | nil => rfl
  | cons name names ih =>
    obtain ⟨hnot, hnodup⟩ := List.nodup_cons.mp hnodup
    have hname := hnames name List.mem_cons_self
    have hnames' : ∀ other ∈ names, (w.destination.get? other).isSome = r.copied.contains other :=
      fun other hother => hnames other (List.mem_cons_of_mem _ hother)
    have hne {other : String} (hother : other ∈ names) : name ≠ other :=
      fun heq => hnot (heq ▸ hother)
    have hround : restoreEntries env r (name :: names) w =
        (if (w.destination.get? name).isSome && !r.preserveNames.contains name then
          restoreEntries env r names
        else if (w.destination.get? name).isSome then
          (clear env name).run env.fails >>= fun _ => (restore env name).run env.fails >>= fun _ =>
            restoreEntries env r names
        else (restore env name).run env.fails >>= fun _ => restoreEntries env r names) w := by
      show (if _ then _ else (if _ then _ else _) : Stateful World String Unit) w = _
      rfl
    have hrestore {w' : World} (hdirectory' : w'.destination.IsDirectory)
        (hnames' : ∀ other ∈ names,
          (w'.destination.get? other).isSome = r.copied.contains other) :
        ((restore env name).run env.fails >>= fun _ => restoreEntries env r names) w' =
          Calls.run env.fails (restore env name :: names.flatMap (restoreCalls env r)) w' := by
      refine Call.run_bind_congr
        (ih hnodup (Place.isDirectory_put hdirectory') fun other hother => ?_)
      show ((w'.destination.put name _).get? other).isSome = _
      rw [Place.get?_put hdirectory', if_neg (hne hother)]
      exact hnames' other hother
    rw [hround, hname, List.flatMap_cons, restoreCalls, goesBack]
    cases r.copied.contains name with
    | false =>
      rw [Bool.false_and, if_neg Bool.false_ne_true, if_neg Bool.false_ne_true, Bool.not_false,
        Bool.or_true, if_pos rfl, if_neg Bool.false_ne_true]
      exact hrestore hdirectory hnames'
    | true =>
      cases r.preserveNames.contains name with
      | false => exact ih hnodup hdirectory hnames'
      | true =>
        refine Call.run_bind_congr
          (hrestore (Place.isDirectory_put hdirectory) fun other hother => ?_)
        show ((w.destination.put name none).get? other).isSome = _
        rw [Place.get?_put hdirectory, if_neg (hne hother)]
        exact hnames' other hother

/-- The copy, and the loop after it. -/
def copyAndRestore (env : Environment) (r : Replacement) (names : List String) :
    Stateful World String Unit :=
  (copy env r).run env.fails >>= fun _ => restoreEntries env r names

/-- What comes after the inspection. -/
def afterInspect (env : Environment) (r : Replacement) (old : Place) :
    Stateful World String Unit :=
  match old with
  | .absent => copyAndRestore env r []
  | .file _ =>
    if r.force then unlinkDestination.run env.fails >>= fun _ => copyAndRestore env r []
    else Stateful.raise (alreadyExists r)
  | .directory old =>
    if r.force then
      makePreserveRoot.run env.fails >>= fun _ => moveEntriesAside env old.keys >>= fun _ =>
        removeDestination.run env.fails >>= fun _ => copyAndRestore env r old.keys
    else if old.entries.isEmpty then
      removeDestination.run env.fails >>= fun _ => copyAndRestore env r []
    else Stateful.raise (alreadyExists r)

lemma replaceEntries_start (old : Place) : replaceEntries env r (start old) =
    (inspect.run env.fails >>= fun _ => afterInspect env r old) (start old) := by
  show (inspect.run env.fails >>= _ >>= _) (start old) = _
  rw [Stateful.bind_bind]
  refine Call.run_bind_congr ?_
  unfold afterInspect
  cases old with
  | absent => rfl
  | file content =>
    cases r.force with
    | true =>
      show (unlinkDestination.run env.fails >>= (fun _ => pure []) >>= copyAndRestore env r)
        (start (.file content)) = _
      rw [Stateful.bind_bind]
      rfl
    | false => rfl
  | directory old =>
    have hremove (names : List String) :
        removeDestination.run env.fails >>= (fun _ => pure names) >>= copyAndRestore env r =
          removeDestination.run env.fails >>= fun _ => copyAndRestore env r names := by
      rw [Stateful.bind_bind]
      rfl
    show ((if (!old.entries.isEmpty && !r.force) = true then _ else _ :
      Stateful World String (List String)) >>= copyAndRestore env r) (start (.directory old)) = _
    cases r.force with
    | true =>
      rw [Bool.not_true, Bool.and_false, if_neg Bool.false_ne_true]
      show (makePreserveRoot.run env.fails >>= _ >>= copyAndRestore env r) _ =
        (makePreserveRoot.run env.fails >>= _) _
      rw [Stateful.bind_bind]
      refine Call.run_bind_congr ?_
      show (moveEntriesAside env old.keys >>= _ >>= copyAndRestore env r) _ =
        (moveEntriesAside env old.keys >>= _) _
      rw [Stateful.bind_bind]
      simp only [hremove]
    | false =>
      dsimp only
      cases old.entries.isEmpty with
      | true => exact congrFun (hremove []) (start (.directory old))
      | false => rfl

/-- A destination that is not refused. -/
def Accepted (r : Replacement) : Place → Prop
  | .absent => True
  | .file _ => r.force = true
  | .directory old => r.force = true ∨ old.entries.isEmpty = true

/-! ## The states in between -/

lemma after_moveAside (hnodup : names.Nodup) (hdestination : w.destination.IsDirectory)
    (hroot : w.preserveRoot.IsDirectory) :
    (Calls.after (names.map (moveAside env)) w).destination.IsDirectory ∧
    (Calls.after (names.map (moveAside env)) w).preserveRoot.IsDirectory ∧
    ∀ other,
      (Calls.after (names.map (moveAside env)) w).destination.get? other =
        (if other ∈ names then none else w.destination.get? other) ∧
      (Calls.after (names.map (moveAside env)) w).preserveRoot.get? other =
        (if other ∈ names then w.destination.get? other else w.preserveRoot.get? other) := by
  induction names generalizing w with
  | nil => exact ⟨hdestination, hroot, fun other => ⟨rfl, rfl⟩⟩
  | cons name names ih =>
    obtain ⟨hnot, hnodup⟩ := List.nodup_cons.mp hnodup
    obtain ⟨hdestination', hroot', hget⟩ := ih (w := (moveAside env name).done w) hnodup
      (Place.isDirectory_put hdestination) (Place.isDirectory_put hroot)
    refine ⟨hdestination', hroot', fun other => ?_⟩
    obtain ⟨hleft, haside⟩ := hget other
    rw [List.map_cons, Calls.after_cons, hleft, haside]
    have hput : ((moveAside env name).done w).destination.get? other =
        if name = other then none else w.destination.get? other := Place.get?_put hdestination
    have hputAside : ((moveAside env name).done w).preserveRoot.get? other =
        if name = other then w.destination.get? name else w.preserveRoot.get? other :=
      Place.get?_put hroot
    rw [hput, hputAside]
    by_cases heq : name = other
    · subst heq
      simp [hnot]
    · simp [heq, Ne.symm heq]

lemma after_restoreCalls (env : Environment) (r : Replacement) (name : String)
    (hdestination : w.destination.IsDirectory) (hroot : w.preserveRoot.IsDirectory) :
    (Calls.after (restoreCalls env r name) w).destination.IsDirectory ∧
    (Calls.after (restoreCalls env r name) w).preserveRoot.IsDirectory ∧
    ∀ other,
      (Calls.after (restoreCalls env r name) w).destination.get? other =
        (if name = other ∧ goesBack r name then w.preserveRoot.get? other
          else w.destination.get? other) ∧
      (name ≠ other → (Calls.after (restoreCalls env r name) w).preserveRoot.get? other =
        w.preserveRoot.get? other) := by
  have hrestore (w' : World) (hdestination' : w'.destination.IsDirectory)
      (haside : w'.preserveRoot = w.preserveRoot) :
      ((restore env name).done w').destination.IsDirectory ∧
      ((restore env name).done w').preserveRoot.IsDirectory ∧
      ∀ other,
        ((restore env name).done w').destination.get? other =
          (if name = other then w.preserveRoot.get? other else w'.destination.get? other) ∧
        (name ≠ other → ((restore env name).done w').preserveRoot.get? other =
          w.preserveRoot.get? other) := by
    refine ⟨Place.isDirectory_put hdestination', ?_, fun other => ⟨?_, fun hne => ?_⟩⟩
    · show (w'.preserveRoot.put name none).IsDirectory
      rw [haside]
      exact Place.isDirectory_put hroot
    · show (w'.destination.put name (w'.preserveRoot.get? name)).get? other = _
      rw [Place.get?_put hdestination', haside]
      by_cases heq : name = other
      · rw [if_pos heq, if_pos heq, heq]
      · rw [if_neg heq, if_neg heq]
    · show (w'.preserveRoot.put name none).get? other = _
      rw [haside, Place.get?_put hroot, if_neg hne]
  unfold restoreCalls
  cases goesBack r name with
  | false => exact ⟨hdestination, hroot, fun other => ⟨by simp [Calls.after], fun _ => rfl⟩⟩
  | true =>
    simp only [if_true, and_true]
    cases r.copied.contains name with
    | false => exact hrestore w hdestination rfl
    | true =>
      -- the entry of the copy is removed before the old one is moved back
      obtain ⟨hdirectory, haside, hget⟩ := hrestore ((clear env name).done w)
        (Place.isDirectory_put hdestination) rfl
      refine ⟨hdirectory, haside, fun other => ⟨(hget other).1.trans ?_, (hget other).2⟩⟩
      by_cases heq : name = other
      · rw [if_pos heq, if_pos heq]
      · rw [if_neg heq, if_neg heq]
        exact (Place.get?_put hdestination).trans (if_neg heq)

lemma after_flatMap_restoreCalls (env : Environment) (r : Replacement) (hnodup : names.Nodup)
    (hdestination : w.destination.IsDirectory) (hroot : w.preserveRoot.IsDirectory) :
    (Calls.after (names.flatMap (restoreCalls env r)) w).destination.IsDirectory ∧
    (Calls.after (names.flatMap (restoreCalls env r)) w).preserveRoot.IsDirectory ∧
    ∀ other,
      (Calls.after (names.flatMap (restoreCalls env r)) w).destination.get? other =
        (if other ∈ names ∧ goesBack r other then w.preserveRoot.get? other
          else w.destination.get? other) ∧
      (other ∉ names → (Calls.after (names.flatMap (restoreCalls env r)) w).preserveRoot.get?
        other = w.preserveRoot.get? other) := by
  induction names generalizing w with
  | nil => exact ⟨hdestination, hroot, fun other => ⟨by simp [Calls.after], fun _ => rfl⟩⟩
  | cons name names ih =>
    obtain ⟨hnot, hnodup⟩ := List.nodup_cons.mp hnodup
    obtain ⟨hdirectory, haside, hone⟩ := after_restoreCalls env r name hdestination hroot
    obtain ⟨hdirectory', haside', hget⟩ := ih hnodup hdirectory haside
    rw [List.flatMap_cons, Calls.after_append]
    refine ⟨hdirectory', haside', fun other => ⟨?_, fun hother => ?_⟩⟩
    · rw [(hget other).1, (hone other).1]
      by_cases heq : name = other
      · subst heq
        simp [hnot]
      · simp [Ne.symm heq, heq, (hone other).2 heq]
    · obtain ⟨hne, hother⟩ := not_or.mp (List.mem_cons.not.mp hother)
      rw [(hget other).2 hother, (hone other).2 (Ne.symm hne)]

/-! ## The run of a replacement -/

lemma replaceEntries_eq {old : Place} (h : Accepted r old) :
    replaceEntries env r (start old) = Calls.run env.fails (calls env r old) (start old) := by
  rw [replaceEntries_start]
  cases old with
  | absent => rfl
  | file content =>
    rw [afterInspect, calls, if_pos (show r.force = true from h),
      if_pos (show r.force = true from h)]
    rfl
  | directory old =>
    unfold afterInspect calls
    dsimp only
    cases hforce : r.force with
    | false =>
      have hempty : old.entries.isEmpty = true := h.resolve_left (by simp [hforce])
      rw [if_neg Bool.false_ne_true, if_neg Bool.false_ne_true, if_pos hempty, if_pos hempty]
      rfl
    | true =>
      rw [if_pos rfl, if_pos rfl]
      refine Call.run_bind_congr (Call.run_bind_congr ?_)
      refine (Stateful.bind_congr_left
        (moveEntriesAside_eq old.nodup ⟨_, rfl⟩ fun _ _ => rfl)).trans ?_
      rw [Calls.run_append]
      refine Calls.run_bind_congr (Call.run_bind_congr (Call.run_bind_congr ?_))
      exact restoreEntries_eq old.nodup ⟨_, rfl⟩ fun _ _ => rfl

/-- A destination that is refused is as it was. -/
lemma replaceEntries_refused (env : Environment) {old : Place} (h : ¬ Accepted r old) :
    (∃ e, (replaceEntries env r (start old)).1 = .error e) ∧
      (replaceEntries env r (start old)).2.destination = old := by
  have hafter : afterInspect env r old = Stateful.raise (alreadyExists r) := by
    cases old with
    | absent => exact absurd trivial h
    | file content => exact if_neg h
    | directory old =>
      obtain ⟨hforce, hempty⟩ := not_or.mp h
      exact (if_neg hforce).trans (if_neg hempty)
  rw [replaceEntries_start, hafter]
  cases hfails : env.fails .inspect with
  | some e =>
    have hrun : inspect.run env.fails (start old) = (.error e, start old) := Call.run_of_some hfails
    rw [Stateful.bind_of_error (congrArg Prod.fst hrun), hrun]
    exact ⟨⟨e, rfl⟩, rfl⟩
  | none =>
    have hrun : inspect.run env.fails (start old) = (.ok (), start old) := Call.run_of_none hfails
    rw [Stateful.bind_of_ok (a := ()) (congrArg Prod.fst hrun), hrun]
    exact ⟨⟨alreadyExists r, rfl⟩, rfl⟩

/-- The calls stop at the refusal. -/
lemma steps_refused {old : Place} (h : ¬ Accepted r old) (hnested : r.nested = false) :
    steps r old = [.inspect] := by
  unfold steps
  rw [if_neg (by simp [hnested])]
  cases old with
  | absent => exact absurd trivial h
  | file content => exact if_neg h
  | directory old =>
    obtain ⟨hforce, hempty⟩ := not_or.mp h
    exact (if_neg hforce).trans (if_neg hempty)

variable {before rest : List (Call Step World)} {name : String}

lemma mem_keys_iff : name ∈ old.keys ↔ (old.get? name).isSome = true := by
  rw [← Dict.contains_iff_mem_keys, Dict.contains]

lemma goesBack_iff :
    goesBack r name = true ↔ name ∈ r.preserveNames ∨ r.copied.get? name = none := by
  unfold goesBack Dict.contains
  cases r.copied.get? name with
  | none => simp
  | some tree => simp

lemma replaced_of_get? {old new : Place} (hdirectory : new.IsDirectory)
    (hget : ∀ name, new.get? name = if (old.get? name).isSome ∧ goesBack r name then
      old.get? name else r.copied.get? name) : Replaced r old new := by
  refine ⟨hdirectory, fun name hname tree htree => ?_, fun name tree htree hor => ?_,
    fun name tree htree hnone => ?_, fun name tree htree => ?_⟩
  · rw [hget, if_pos ⟨by rw [htree]; rfl, goesBack_iff.mpr (.inl hname)⟩, htree]
  · rw [hget, if_neg fun h => ?_, htree]
    obtain ⟨hsome, hback⟩ := h
    rcases hor with hname | hnone
    · rcases goesBack_iff.mp hback with hback | hback
      · exact hname hback
      · rw [htree] at hback
        cases hback
    · rw [hnone] at hsome
      cases hsome
  · rw [hget, if_pos ⟨by rw [htree]; rfl, goesBack_iff.mpr (.inr hnone)⟩, htree]
  · rw [hget] at htree
    split at htree
    · exact .inl htree
    · exact .inr htree

/-- The world after the copy, when the old entries were moved aside. -/
def copiedWorld (env : Environment) (r : Replacement) (old : Dict String Tree) : World :=
  Calls.after (inspect :: makePreserveRoot :: (old.keys.map (moveAside env) ++
    [removeDestination, copy env r])) (start (.directory old))

/-- The world while the old entries are moved aside. -/
lemma after_aside (env : Environment) (old : Dict String Tree) (hnodup : names.Nodup) (w : World)
    (hw : w = Calls.after (inspect :: makePreserveRoot :: names.map (moveAside env))
      (start (.directory old))) :
    w.destination.IsDirectory ∧ w.preserveRoot.IsDirectory ∧ ∀ other,
      w.destination.get? other = (if other ∈ names then none else old.get? other) ∧
      w.preserveRoot.get? other = (if other ∈ names then old.get? other else none) := by
  subst hw
  exact after_moveAside (w := makePreserveRoot.done (start (.directory old))) hnodup ⟨_, rfl⟩
    ⟨_, rfl⟩

section

variable (env : Environment) (r : Replacement) (old : Dict String Tree)

lemma copiedWorld_destination :
    (copiedWorld env r old).destination = .directory r.copied := by
  unfold copiedWorld
  rw [← List.cons_append, ← List.cons_append, Calls.after_append]
  rfl

lemma copiedWorld_preserveRoot :
    (copiedWorld env r old).preserveRoot.IsDirectory ∧
      ∀ name, (copiedWorld env r old).preserveRoot.get? name = old.get? name := by
  obtain ⟨_, hroot, hget⟩ := after_aside env old old.nodup _ rfl
  have hcopied : (copiedWorld env r old).preserveRoot =
      (Calls.after (inspect :: makePreserveRoot :: old.keys.map (moveAside env))
        (start (.directory old))).preserveRoot := by
    unfold copiedWorld
    rw [← List.cons_append, ← List.cons_append, Calls.after_append]
    rfl
  rw [hcopied]
  refine ⟨hroot, fun name => (hget name).2.trans ?_⟩
  split
  · rfl
  · rename_i hname
    exact (Dict.get?_eq_none_iff.mpr hname).symm

/-- The world while the old entries are moved back. -/
lemma after_restore
    (hnodup : names.Nodup) (w : World)
    (hw : w = Calls.after (names.flatMap (restoreCalls env r)) (copiedWorld env r old)) :
    w.destination.IsDirectory ∧ ∀ other, w.destination.get? other =
      if other ∈ names ∧ goesBack r other then old.get? other else r.copied.get? other := by
  subst hw
  obtain ⟨hroot, haside⟩ := copiedWorld_preserveRoot env r old
  have hdestination := copiedWorld_destination env r old
  obtain ⟨hdirectory, _, hget⟩ := after_flatMap_restoreCalls env r hnodup
    (w := copiedWorld env r old) ⟨_, hdestination⟩ hroot
  refine ⟨hdirectory, fun other => ?_⟩
  rw [(hget other).1, haside, hdestination]
  rfl

end

lemma calls_directory (hforce : r.force = true) :
    calls env r (.directory old) = (inspect :: makePreserveRoot :: (old.keys.map (moveAside env) ++
      [removeDestination, copy env r])) ++ old.keys.flatMap (restoreCalls env r) := by
  show (if r.force = true then _ else _) = _
  rw [if_pos hforce]
  simp

/-- What the destination holds after a replacement at which nothing raised. -/
lemma replaced_after {old : Place} (h : Accepted r old) :
    Replaced r old (Calls.after (calls env r old) (start old)).destination := by
  have hcopied (hnone : ∀ name, old.get? name = none) : Replaced r old (.directory r.copied) :=
    replaced_of_get? ⟨_, rfl⟩ fun name => by
      rw [hnone, if_neg (fun hsome => Bool.false_ne_true hsome.1)]
      rfl
  cases old with
  | absent => exact hcopied fun _ => rfl
  | file content =>
    rw [calls, if_pos (show r.force = true from h)]
    exact hcopied fun _ => rfl
  | directory old =>
    by_cases hforce : r.force = true
    · obtain ⟨hdirectory, hget⟩ := after_restore env r old old.nodup _ rfl
      rw [calls_directory hforce, Calls.after_append]
      refine replaced_of_get? hdirectory fun name => (hget name).trans ?_
      exact if_congr (and_congr_left' mem_keys_iff) rfl rfl
    · have hempty : old.entries = [] := List.isEmpty_iff.mp (h.resolve_left hforce)
      rw [calls, if_neg hforce, if_pos (List.isEmpty_iff.mpr hempty)]
      refine hcopied fun name => ?_
      show Dict.lookup name old.entries = none
      rw [hempty]
      rfl

/-! ## What a step that raises leaves -/

/-- While the entries are moved aside, only the first one may fail. -/
lemma holds_moveAside {before later : List String} (hkeys : old.keys = before ++ name :: later)
    (w : World) (hw : w = Calls.after (inspect :: makePreserveRoot :: before.map (moveAside env))
      (start (.directory old))) :
    ((moveAside env name).failed w).destination.Holds (.directory old) ↔
      Harmless env r (.directory old) (.moveAside name) := by
  have hnodup : (before ++ name :: later).Nodup := hkeys ▸ old.nodup
  obtain ⟨hdirectory, _, hget⟩ := after_aside env old (List.Nodup.of_append_left hnodup) w hw
  have hput (other : String) : ((moveAside env name).failed w).destination.get? other =
      if name = other then env.left (.moveAside name)
      else if other ∈ before then none else old.get? other := by
    show (w.destination.put name _).get? other = _
    rw [Place.get?_put hdirectory, (hget other).1]
  have hname : ∃ tree, old.get? name = some tree := by
    refine Option.isSome_iff_exists.mp (mem_keys_iff.mp ?_)
    rw [hkeys]
    exact List.mem_append_right _ List.mem_cons_self
  show (∀ other tree, _ → _) ↔ old.keys.head? = some name ∧ _
  constructor
  · intro hold
    obtain ⟨tree, htree⟩ := hname
    refine ⟨?_, ?_⟩
    · cases before with
      | nil => rw [hkeys]; rfl
      | cons first before =>
        -- the first entry is in the side directory
        have hfirst : first ∈ old.keys := by
          rw [hkeys]
          exact List.mem_cons_self
        obtain ⟨tree', htree'⟩ := Option.isSome_iff_exists.mp (mem_keys_iff.mp hfirst)
        have hstands := hold first tree' htree'
        have hne : name ≠ first := by
          rintro rfl
          simp at hnodup
        rw [hput, if_neg hne, if_pos List.mem_cons_self] at hstands
        cases hstands
    · have hstands := hold name tree htree
      rw [hput, if_pos rfl] at hstands
      rw [hstands, htree]
  · rintro ⟨hhead, hleft⟩ other tree htree
    have hbefore : before = [] := by
      cases before with
      | nil => rfl
      | cons first before =>
        rw [hkeys] at hhead
        obtain rfl : first = name := Option.some.inj hhead
        simp at hnodup
    rw [hput, hleft, hbefore, if_neg (List.not_mem_nil)]
    split
    · rename_i heq
      rw [heq, htree]
    · exact htree

/-- While the old entries are moved back, `standing` is what the step leaves under its name. -/
lemma holds_restore {before later : List String} (hkeys : old.keys = before ++ name :: later)
    {place : Place} {standing : Option Tree}
    (hget : ∀ other, place.get? other = if name = other then standing
      else if other ∈ before ∧ goesBack r other then old.get? other else r.copied.get? other) :
    place.Holds (.directory old) ↔ HarmlessRestore r (.directory old) name standing := by
  have hnodup : (before ++ name :: later).Nodup := hkeys ▸ old.nodup
  have hbefore : old.keys.takeWhile (· ≠ name) = before := by
    have hne : ∀ other ∈ before, decide (other ≠ name) = true := by
      intro other hother
      refine decide_eq_true fun heq => ?_
      exact (List.nodup_append.mp hnodup).2.2 other hother name List.mem_cons_self heq
    rw [hkeys, List.takeWhile_append_of_pos hne]
    simp
  show (∀ other tree, _ → _) ↔ ∀ other tree, _ → _
  refine forall_congr' fun other => forall_congr' fun tree => forall_congr' fun htree => ?_
  rw [hget, hbefore]
  split
  · rfl
  · split
    · rename_i hback
      exact iff_of_true htree (.inl hback)
    · rename_i hback
      exact (or_iff_right hback).symm

/-- The calls that move the entry `name` back. -/
lemma holds_restoreCalls {earlier later : List String} {first last : List (Call Step World)}
    (hkeys : old.keys = earlier ++ name :: later)
    (hname : restoreCalls env r name = first ++ c :: last) :
    (c.failed (Calls.after first (Calls.after (earlier.flatMap (restoreCalls env r))
      (copiedWorld env r old)))).destination.Holds (.directory old) ↔
      Harmless env r (.directory old) c.step := by
  have hnodup : (earlier ++ name :: later).Nodup := hkeys ▸ (old.nodup : old.keys.Nodup)
  obtain ⟨hdirectory, hget⟩ := after_restore env r old
    (List.Nodup.of_append_left hnodup) _ rfl
  have hput {w : World} (hw : ∀ other, name ≠ other → w.destination.get? other =
      if other ∈ earlier ∧ goesBack r other then old.get? other else r.copied.get? other)
      (hdirectory : w.destination.IsDirectory) (standing : Option Tree) :
      (w.destination.put name standing).Holds (.directory old) ↔
        HarmlessRestore r (.directory old) name standing := by
    refine holds_restore hkeys fun other => ?_
    rw [Place.get?_put hdirectory]
    by_cases heq : name = other
    · rw [if_pos heq, if_pos heq]
    · rw [if_neg heq, if_neg heq, hw other heq]
  unfold restoreCalls at hname
  cases hback : goesBack r name with
  | false => simp [hback] at hname
  | true =>
    rw [if_pos hback] at hname
    cases hcontains : r.copied.contains name with
    | false =>
      rw [if_neg (by simp [hcontains])] at hname
      rcases first with _ | ⟨_, first⟩
      · obtain ⟨rfl, -⟩ := List.cons.inj hname
        exact hput (fun other _ => hget other) hdirectory _
      · simp at hname
    | true =>
      rw [if_pos hcontains] at hname
      rcases first with _ | ⟨_, _ | ⟨_, first⟩⟩
      · obtain ⟨rfl, -⟩ := List.cons.inj hname
        exact hput (fun other _ => hget other) hdirectory _
      · obtain ⟨rfl, hsecond⟩ := List.cons.inj hname
        obtain ⟨rfl, -⟩ := List.cons.inj hsecond
        refine hput (fun other hne => ?_) (Place.isDirectory_put hdirectory) _
        exact (Place.get?_put hdirectory).trans ((if_neg hne).trans (hget other))
      · simp at hname

/-- The removal of the destination, with all entries in the side directory. -/
lemma holds_removeDestination :
    (Calls.after (inspect :: makePreserveRoot :: old.keys.map (moveAside env))
      (start (.directory old))).destination.Holds (.directory old) ↔ old.entries = [] := by
  have hnodup : old.keys.Nodup := old.nodup
  obtain ⟨_, _, hget⟩ := after_aside env old hnodup _ rfl
  constructor
  · intro hold
    refine List.eq_nil_iff_forall_not_mem.mpr fun entry hentry => ?_
    have htree : old.get? entry.1 = some entry.2 := Dict.get?_eq_some_iff.mpr hentry
    have hstands := (hget entry.1).1.symm.trans (hold entry.1 entry.2 htree)
    rw [if_pos (Dict.mem_keys_of_mem hentry)] at hstands
    cases hstands
  · intro hempty name tree htree
    rw [Dict.get?_eq_some_iff, hempty] at htree
    cases htree

lemma holds_directory (hforce : r.force = true)
    (hsplit : calls env r (.directory old) = before ++ c :: rest) :
    (c.failed (Calls.after before (start (.directory old)))).destination.Holds (.directory old) ↔
      Harmless env r (.directory old) c.step := by
  rw [calls_directory hforce] at hsplit
  rcases Calls.append_eq_append_cons hsplit with ⟨last, hfirst⟩ | ⟨first, rfl, hback⟩
  · rcases before with _ | ⟨_, _ | ⟨_, before⟩⟩
    · obtain ⟨rfl, -⟩ := List.cons.inj hfirst
      exact iff_of_true (Place.Holds.refl _) trivial
    · obtain ⟨rfl, hsecond⟩ := List.cons.inj hfirst
      obtain ⟨rfl, -⟩ := List.cons.inj hsecond
      exact iff_of_true (Place.Holds.refl _) trivial
    · obtain ⟨rfl, hsecond⟩ := List.cons.inj hfirst
      obtain ⟨rfl, hthird⟩ := List.cons.inj hsecond
      rcases Calls.append_eq_append_cons hthird with ⟨last', haside⟩ | ⟨first, rfl, hcopy⟩
      · obtain ⟨earlier, rest', hkeys, hearlier, hrest⟩ := List.map_eq_append_iff.mp haside
        obtain ⟨name, later, rfl, rfl, -⟩ := List.map_eq_cons_iff.mp hrest
        rw [← hearlier]
        exact holds_moveAside hkeys _ rfl
      · rcases first with _ | ⟨_, _ | ⟨_, first⟩⟩
        · obtain ⟨rfl, -⟩ := List.cons.inj hcopy
          rw [List.append_nil]
          exact holds_removeDestination
        · obtain ⟨rfl, hlast⟩ := List.cons.inj hcopy
          obtain ⟨rfl, -⟩ := List.cons.inj hlast
          rfl
        · simp at hcopy
  · obtain ⟨earlier, name, later, first', last, hkeys, hname, rfl⟩ :=
      Calls.flatMap_eq_append_cons hback
    rw [← List.append_assoc, Calls.after_append, Calls.after_append]
    exact holds_restoreCalls hkeys hname

/-- A step that raises leaves the old destination, or it does harm. -/
lemma holds_iff_harmless {old : Place} (h : Accepted r old)
    (hsplit : calls env r old = before ++ c :: rest) :
    (c.failed (Calls.after before (start old))).destination.Holds old ↔
      Harmless env r old c.step := by
  have hcopied {w : World} :
      ((copy env r).failed w).destination.Holds old ↔ Harmless env r old .copy := Iff.rfl
  cases old with
  | absent =>
    rcases before with _ | ⟨_, _ | ⟨_, before⟩⟩
    · obtain ⟨rfl, -⟩ := List.cons.inj hsplit
      exact iff_of_true trivial trivial
    · obtain ⟨rfl, hsecond⟩ := List.cons.inj hsplit
      obtain ⟨rfl, -⟩ := List.cons.inj hsecond
      exact hcopied
    · simp [calls] at hsplit
  | file content =>
    rw [calls, if_pos (show r.force = true from h)] at hsplit
    rcases before with _ | ⟨_, _ | ⟨_, _ | ⟨_, before⟩⟩⟩
    · obtain ⟨rfl, -⟩ := List.cons.inj hsplit
      exact iff_of_true rfl trivial
    · obtain ⟨rfl, hsecond⟩ := List.cons.inj hsplit
      obtain ⟨rfl, -⟩ := List.cons.inj hsecond
      exact iff_of_true rfl trivial
    · obtain ⟨rfl, hsecond⟩ := List.cons.inj hsplit
      obtain ⟨rfl, hthird⟩ := List.cons.inj hsecond
      obtain ⟨rfl, -⟩ := List.cons.inj hthird
      exact hcopied
    · simp at hsplit
  | directory old =>
    by_cases hforce : r.force = true
    · exact holds_directory hforce hsplit
    · have hempty : old.entries = [] := List.isEmpty_iff.mp (h.resolve_left hforce)
      rw [calls, if_neg hforce, if_pos (List.isEmpty_iff.mpr hempty)] at hsplit
      rcases before with _ | ⟨_, _ | ⟨_, _ | ⟨_, before⟩⟩⟩
      · obtain ⟨rfl, -⟩ := List.cons.inj hsplit
        exact iff_of_true (Place.Holds.refl _) trivial
      · obtain ⟨rfl, hsecond⟩ := List.cons.inj hsplit
        obtain ⟨rfl, -⟩ := List.cons.inj hsecond
        exact iff_of_true (Place.Holds.refl _) hempty
      · obtain ⟨rfl, hsecond⟩ := List.cons.inj hsplit
        obtain ⟨rfl, hthird⟩ := List.cons.inj hsecond
        obtain ⟨rfl, -⟩ := List.cons.inj hthird
        exact hcopied
      · simp at hsplit

/-! ## The theorem -/

/-- The side directory is removed after every run. -/
lemma losesNothing_iff_replaceEntries {old : Place} (hnested : r.nested = false) :
    LosesNothing env r old ↔ match replaceEntries env r (start old) with
      | (.ok (), w) => Replaced r old w.destination
      | (.error _, w) => w.destination.Holds old := by
  have hrun : replaceRuntimeDestination env r (start old) =
      removingPreserveRoot env (replaceEntries env r) (start old) := by
    have hcheck : rejectNestedRuntimeReplacement r = .ok () := if_neg (by simp [hnested])
    unfold replaceRuntimeDestination
    rw [hcheck]
    rfl
  unfold LosesNothing
  rw [hrun, removingPreserveRoot]
  match replaceEntries env r (start old) with
  | (.ok (), ⟨destination, .absent⟩) => rfl
  | (.ok (), ⟨destination, .file _⟩) => rfl
  | (.ok (), ⟨destination, .directory _⟩) => rfl
  | (.error e, ⟨destination, .absent⟩) => exact unharmed_iff
  | (.error e, ⟨destination, .file _⟩) => exact unharmed_iff
  | (.error e, ⟨destination, .directory _⟩) => exact unharmed_iff

end Program

/-- A replacement loses nothing if and only if the step at which it raises, if any, is harmless. -/
theorem losesNothing_iff (env : Environment) (r : Replacement) (old : Place) :
    LosesNothing env r old ↔
      ∀ step, Calls.firstFailure env.fails (steps r old) = some step → Harmless env r old step := by
  cases hnested : r.nested with
  | true =>
    -- nothing is called
    refine iff_of_true ?_ fun step hstep => ?_
    · have hcheck : ∃ e, rejectNestedRuntimeReplacement r = .error e := ⟨_, if_pos hnested⟩
      obtain ⟨e, hcheck⟩ := hcheck
      unfold LosesNothing replaceRuntimeDestination
      rw [hcheck]
      exact unharmed_iff.mpr (Place.Holds.refl old)
    · unfold steps at hstep
      rw [if_pos hnested] at hstep
      cases hstep
  | false =>
    rw [losesNothing_iff_replaceEntries hnested]
    by_cases h : Accepted r old
    · rw [replaceEntries_eq h, ← map_step_calls env hnested]
      rcases Calls.run_cases env.fails (calls env r old) (start old) with
        ⟨hnone, hrun⟩ | ⟨before, c, rest, e, hsplit, hfirst, hrun⟩
      · rw [hrun, hnone]
        exact iff_of_true (replaced_after h) fun step hstep => nomatch hstep
      · rw [hrun, hfirst]
        refine (holds_iff_harmless h hsplit).trans ⟨?_, fun hall => hall c.step rfl⟩
        intro hharmless step hstep
        obtain rfl := Option.some.inj hstep
        exact hharmless
    · obtain ⟨⟨e, herror⟩, hdestination⟩ := replaceEntries_refused env h
      refine iff_of_true ?_ fun step hstep => ?_
      · match hrun : replaceEntries env r (start old), herror, hdestination with
        | (.error _, w), rfl, hdestination =>
          show w.destination.Holds old
          rw [hdestination]
          exact Place.Holds.refl old
      · rw [steps_refused h hnested] at hstep
        obtain rfl : step = .inspect := List.mem_singleton.mp (List.mem_of_find?_eq_some hstep)
        trivial

/-! ## A copy that fails -/

/-- A disk that is full when the source is copied. -/
def fullDisk : Environment where
  fails
    | .copy => some "No space left on device"
    | _ => none
  left _ := none
  made _ := none
  halfCopied := .directory .empty
  remains _ := .absent

/-- A runtime replaces one that has a chat. -/
def followup : Replacement where
  sourceRuntimeDir := ["staging"]
  destinationPath := ["project"]
  source := ⟨[("top.py", .file "new")], List.nodup_singleton _⟩
  force := true
  preserveNames := [".factory_chat", ".runtime_sessions"]

def chatProject : Place :=
  .directory ⟨[(".factory_chat", .directory [("chat.json", .file "{}")])], List.nodup_singleton _⟩

/-- The chat is gone, also from the side directory. -/
theorem chat_lost_on_full_disk :
    (replaceRuntimeDestination fullDisk followup (start chatProject)).1 =
      .error "No space left on device" ∧
    (replaceRuntimeDestination fullDisk followup (start chatProject)).2.destination.get?
      ".factory_chat" = none ∧
    (replaceRuntimeDestination fullDisk followup (start chatProject)).2.preserveRoot.get?
      ".factory_chat" = none ∧
    ¬LosesNothing fullDisk followup chatProject := by
  refine ⟨rfl, rfl, rfl, fun h => ?_⟩
  have hstands : (none : Option Tree) = some (.directory [("chat.json", .file "{}")]) :=
    (show Unharmed chatProject _ from h).held ".factory_chat" _ rfl
  cases hstands

end Agintor.Factory.Destination
