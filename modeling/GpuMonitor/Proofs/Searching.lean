import GpuMonitor.Config
import GpuMonitor.Library

/-!
# The search for a library

Candidates are tried in their order, and the first one that can be loaded ends the search, whether
its entry point is there or not. What a search comes to is told from where it has ended.

* `Library.Tries`: the candidates that a search tries, those that cannot be loaded and the one that
  ends it. `exists_tries`: every search has such an end.
* `Library.load_of_tries`: the whole search, from its end.
* `Library.Search`: what there is to see of a search, and what it does not depend on.

Main result:

* `load_first_that_opens`: every search is such a one, that of a configuration over the library that
  it names and the default places.
-/

namespace GpuMonitor
namespace Library

/-- The log record of a path that cannot be loaded, for a reason. -/
def couldNotLoad (refusal : Path × String) : Event :=
  .log .debug ("Could not load " ++ refusal.1.text ++ ": " ++ refusal.2)

/-- The log record of a path that is loaded. -/
def loadedFrom (path : Path) : Event := .log .debug ("Loaded library from: " ++ path.text)

/-- A search tries the candidates of `refused`, from the first one on, which cannot be loaded for
the reasons beside them, and then the candidate `found`, which can. Without one it tries all. -/
structure Tries (loader : Loader) (candidates : List Path) (refused : List (Path × String))
    (found : Option Path) : Prop where
  inOrder : refused.map Prod.fst ++ found.toList <+: candidates
  fails : ∀ refusal ∈ refused, loader refusal.1 = .fails refusal.2
  loads : ∀ path ∈ found, ∀ reason, loader path ≠ .fails reason
  exhausted : found = none → refused.map Prod.fst = candidates

/-- What there is to see of a search, from where it has ended. -/
structure EndsIn (loader : Loader) (candidates : List Path) (refused : List (Path × String))
    (found : Option Path) (search : Traced (Except Failure Library)) : Prop where
  /-- Every path that cannot be loaded is logged with its reason, and then the path that is. -/
  logged : search.trace = refused.map couldNotLoad ++ found.toList.map loadedFrom
  opened : ∀ path ∈ found, ∀ script, loader path = .opens script →
    search.value = .ok { path, vendor := .fresh script }
  entryless : ∀ path ∈ found, ∀ reason, loader path = .lacksEntry reason →
    search.value = .error (.entryPointMissing reason)
  notFound : found = none → search.value = .error (.libraryNotFound candidates)
  /-- Neither what the loader makes of other paths nor what stands behind the path that is loaded
  has a part in it. -/
  asksNoMore : ∀ loader' : Loader,
    (∀ path ∈ refused.map Prod.fst ++ found.toList, loader' path = loader path) →
    load loader' candidates = search ∧
    ∀ path ∈ found, ∀ after, load loader' (refused.map Prod.fst ++ path :: after) = search

/-- The search is one over the candidates. -/
structure Search (loader : Loader) (candidates : List Path)
    (search : Traced (Except Failure Library)) : Prop where
  ends : ∃ refused found, Tries loader candidates refused found
  endsIn : ∀ refused found, Tries loader candidates refused found →
    EndsIn loader candidates refused found search
  notFound_iff : (∃ tried, search.value = .error (.libraryNotFound tried)) ↔
    ∀ path ∈ candidates, ∃ reason, loader path = .fails reason

variable {loader : Loader} {candidates : List Path} {refused : List (Path × String)}
  {found : Option Path}

/-! ## Where a search ends -/

theorem exists_tries (loader : Loader) (candidates : List Path) :
    ∃ refused found, Tries loader candidates refused found := by
  induction candidates with
  | nil => exact ⟨[], none, List.prefix_refl _, by simp, nofun, fun _ => rfl⟩
  | cons path rest ih =>
    cases hpath : loader path with
    | fails reason =>
      obtain ⟨refused, found, horder, hrefused, hfound, hexhausted⟩ := ih
      refine ⟨(path, reason) :: refused, found, ?_, ?_, hfound, fun h => ?_⟩
      · exact List.cons_prefix_cons.2 ⟨rfl, horder⟩
      · exact List.forall_mem_cons.2 ⟨hpath, hrefused⟩
      · rw [List.map_cons, hexhausted h]
    | lacksEntry reason =>
      refine ⟨[], some path, List.prefix_append [path] rest, by simp, ?_, nofun⟩
      intro path' hpath' reason' h
      obtain rfl := Option.some.inj hpath'
      cases hpath.symm.trans h
    | opens script =>
      refine ⟨[], some path, List.prefix_append [path] rest, by simp, ?_, nofun⟩
      intro path' hpath' reason' h
      obtain rfl := Option.some.inj hpath'
      cases hpath.symm.trans h

theorem Tries.eq_append (h : Tries loader candidates refused found) :
    ∃ after, candidates = refused.map Prod.fst ++ (found.toList ++ after) ∧
      (found = none → after = []) := by
  obtain ⟨after, hafter⟩ := h.inOrder
  refine ⟨after, by rw [← hafter, List.append_assoc], ?_⟩
  rintro rfl
  have hall := h.exhausted rfl
  simpa [← hall] using hafter

/-- All of the candidates are refused if and only if nothing is found. -/
theorem Tries.eq_none_iff (h : Tries loader candidates refused found) :
    found = none ↔ ∀ path ∈ candidates, ∃ reason, loader path = .fails reason := by
  constructor
  · intro hnone path hpath
    rw [← h.exhausted hnone] at hpath
    obtain ⟨refusal, hmem, rfl⟩ := List.mem_map.1 hpath
    exact ⟨refusal.2, h.fails refusal hmem⟩
  · intro hall
    cases hfound : found with
    | none => rfl
    | some path =>
      obtain ⟨after, hcandidates, -⟩ := h.eq_append
      obtain ⟨reason, hreason⟩ := hall path (by simp [hcandidates, hfound])
      exact absurd hreason (h.loads path hfound reason)

/-! ## The whole search -/

/-- Candidates that cannot be loaded are logged and remembered, and the search goes on behind
them. -/
theorem loadAfter_refused (h : ∀ refusal ∈ refused, loader refusal.1 = .fails refusal.2)
    (tried rest : List Path) :
    let behind := loadAfter loader (tried ++ refused.map Prod.fst) rest
    loadAfter loader tried (refused.map Prod.fst ++ rest) =
      { value := behind.value, trace := refused.map couldNotLoad ++ behind.trace } := by
  -- on the refused ones, for whatever was tried before them: each step adds one to that
  induction refused generalizing tried with
  | nil => simp
  | cons refusal refused ih =>
    obtain ⟨hfirst, hrest⟩ := List.forall_mem_cons.1 h
    simp only [List.map_cons, List.cons_append, loadAfter, hfirst]
    rw [ih hrest]
    apply Traced.ext' <;> simp [couldNotLoad, Traced.log, Traced.emit]

/-- What a path comes to at which the search ends. -/
def outcomeAt (path : Path) (candidates : List Path) : Loading → Except Failure Library
  | .opens script => .ok { path, vendor := .fresh script }
  | .lacksEntry reason => .error (.entryPointMissing reason)
  | .fails _ => .error (.libraryNotFound candidates)

/-- What a search comes to, from where it has ended. -/
def outcome (loader : Loader) (candidates : List Path) : Option Path → Except Failure Library
  | none => .error (.libraryNotFound candidates)
  | some path => outcomeAt path candidates (loader path)

/-- A path that can be loaded ends the search, whatever stands behind it. -/
theorem loadAfter_found {path : Path} (h : ∀ reason, loader path ≠ .fails reason)
    (tried after candidates : List Path) :
    loadAfter loader tried (path :: after) =
      { value := outcomeAt path candidates (loader path), trace := [loadedFrom path] } := by
  cases hpath : loader path with
  | fails reason => exact absurd hpath (h reason)
  | lacksEntry reason =>
    rw [loadAfter, hpath]
    rfl
  | opens script =>
    rw [loadAfter, hpath]
    rfl

theorem load_of_tries (h : Tries loader candidates refused found) :
    load loader candidates =
      { value := outcome loader candidates found
        trace := refused.map couldNotLoad ++ found.toList.map loadedFrom } := by
  obtain ⟨after, hcandidates, hafter⟩ := h.eq_append
  rw [load]
  conv => lhs; rw [hcandidates]
  rw [loadAfter_refused h.fails]
  cases hfound : found with
  | none =>
    rw [hafter hfound]
    simp [loadAfter, outcome, h.exhausted hfound]
  | some path =>
    have hbehind := loadAfter_found (h.loads path hfound) ([] ++ refused.map Prod.fst) after
      candidates
    rw [Option.toList_some, List.singleton_append, hbehind]
    rfl

/-! ## What a search depends on -/

/-- Candidates that begin with those that were tried, up to one that can be loaded, are searched in
the same way, and so are the same candidates. -/
theorem Tries.of_agreeing (h : Tries loader candidates refused found) {loader' : Loader}
    (hagree : ∀ path ∈ refused.map Prod.fst ++ found.toList, loader' path = loader path)
    {candidates' : List Path} (horder : refused.map Prod.fst ++ found.toList <+: candidates')
    (hexhausted : found = none → candidates' = candidates) :
    Tries loader' candidates' refused found where
  inOrder := horder
  fails refusal hmem := by
    have hpath : refusal.1 ∈ refused.map Prod.fst := List.mem_map_of_mem hmem
    rw [hagree _ (List.mem_append_left _ hpath), h.fails refusal hmem]
  loads path hpath reason := by
    rw [hagree _ (List.mem_append_right _ (Option.mem_toList.2 hpath))]
    exact h.loads path hpath reason
  exhausted hnone := by rw [h.exhausted hnone, hexhausted hnone]

/-- What a search comes to is known from the paths that it has tried. -/
theorem outcome_of_agreeing {loader' : Loader} {candidates' : List Path}
    (hloads : ∀ path ∈ found, ∀ reason, loader path ≠ .fails reason)
    (hagree : ∀ path ∈ found, loader' path = loader path)
    (hexhausted : found = none → candidates' = candidates) :
    outcome loader' candidates' found = outcome loader candidates found := by
  cases found with
  | none => rw [outcome, outcome, hexhausted rfl]
  | some path =>
    rw [outcome, outcome, hagree path rfl]
    cases hpath : loader path with
    | fails reason => exact absurd hpath (hloads path rfl reason)
    | lacksEntry reason => rfl
    | opens script => rfl

theorem load_of_agreeing (h : Tries loader candidates refused found) {loader' : Loader}
    (hagree : ∀ path ∈ refused.map Prod.fst ++ found.toList, loader' path = loader path)
    {candidates' : List Path} (horder : refused.map Prod.fst ++ found.toList <+: candidates')
    (hexhausted : found = none → candidates' = candidates) :
    load loader' candidates' = load loader candidates := by
  have hfound : ∀ path ∈ found, loader' path = loader path := fun path hpath =>
    hagree path (List.mem_append_right _ (Option.mem_toList.2 hpath))
  rw [load_of_tries (h.of_agreeing hagree horder hexhausted), load_of_tries h,
    outcome_of_agreeing h.loads hfound hexhausted]

theorem endsIn_load (h : Tries loader candidates refused found) :
    EndsIn loader candidates refused found (load loader candidates) where
  logged := by rw [load_of_tries h]
  opened path hpath script hscript := by
    obtain rfl := Option.mem_def.1 hpath
    rw [load_of_tries h, outcome, hscript, outcomeAt]
  entryless path hpath reason hreason := by
    obtain rfl := Option.mem_def.1 hpath
    rw [load_of_tries h, outcome, hreason, outcomeAt]
  notFound hnone := by
    subst hnone
    rw [load_of_tries h, outcome]
  asksNoMore loader' hagree := by
    refine ⟨load_of_agreeing h hagree h.inOrder fun _ => rfl, fun path hpath after => ?_⟩
    obtain rfl := Option.mem_def.1 hpath
    refine load_of_agreeing h hagree ?_ nofun
    rw [Option.toList_some, List.prefix_append_right_inj]
    exact List.prefix_append [path] after

/-- A search in which a path can be loaded does not end with the failure that none can. -/
theorem outcome_notFound_iff (hloads : ∀ path ∈ found, ∀ reason, loader path ≠ .fails reason) :
    (∃ tried, outcome loader candidates found = .error (.libraryNotFound tried)) ↔
      found = none := by
  cases found with
  | none => exact iff_of_true ⟨candidates, rfl⟩ rfl
  | some path =>
    refine iff_of_false ?_ nofun
    rintro ⟨tried, htried⟩
    rw [outcome] at htried
    cases hpath : loader path with
    | fails reason => exact hloads path rfl reason hpath
    | lacksEntry reason => rw [hpath] at htried; cases htried
    | opens script => rw [hpath] at htried; cases htried

end Library

open Library

/--
**The first candidate that can be loaded ends the search.** For every loader, and every list of
candidates, that of a configuration being the library that it names and then the default places:

* the candidates are tried in order, each being logged, and none behind the first that can be loaded
  is tried;
* if the entry point is there, the library of that path is given, and if not, that is the failure;
* it fails for want of a library if and only if no candidate can be loaded, and has tried them all
  then.
-/
theorem load_first_that_opens (loader : Loader) :
    (∀ config : Config, Search loader (config.library.toList ++ defaultLibraryPaths)
      (load loader config.candidates)) ∧
    ∀ candidates, Search loader candidates (load loader candidates) := by
  have hsearch (candidates : List Path) :
      Search loader candidates (load loader candidates) := by
    refine ⟨exists_tries loader candidates, fun _ _ h => endsIn_load h, ?_⟩
    obtain ⟨refused, found, h⟩ := exists_tries loader candidates
    rw [load_of_tries h, outcome_notFound_iff h.loads, h.eq_none_iff]
  exact ⟨fun config => hsearch config.candidates, hsearch⟩

/-- A loader that has something at one path only. -/
def onlyAt (there : Path) (loading : Loading) : Loader := fun path =>
  if path = there then loading else .fails "nothing there"

/-- A library without its entry point lies at the third of the default places, and none at the path
that the configuration names: the last place is not tried. -/
theorem load_first_that_opens_entryless :
    let config : Config := { library := some (.ofText "./other.so") }
    let there : Path := .ofText "/usr/local/lib/libigdmd.so"
    let search := load (onlyAt there (.lacksEntry "no entry")) config.candidates
    search.value = .error (.entryPointMissing "no entry") ∧
      search.trace = [.ofText "./other.so",
          .ofText "./dump/linux64/release/metrics_discovery/libigdmd.so",
          .ofText "/usr/lib/x86_64-linux-gnu/libigdmd.so"].map
            (fun path => couldNotLoad (path, "nothing there")) ++ [loadedFrom there] ∧
      load (fun path => if path = .ofText "libigdmd.so" then .opens {}
        else onlyAt there (.lacksEntry "no entry") path) config.candidates = search := by
  intro config there search
  let refused := [Path.ofText "./other.so",
    .ofText "./dump/linux64/release/metrics_discovery/libigdmd.so",
    .ofText "/usr/lib/x86_64-linux-gnu/libigdmd.so"].map fun path => (path, "nothing there")
  have helsewhere : ∀ refusal ∈ refused, refusal.1 ≠ there ∧ refusal.2 = "nothing there" := by
    decide +kernel
  have hlast : ∀ path ∈ refused.map Prod.fst ++ [there], path ≠ .ofText "libigdmd.so" := by
    decide +kernel
  have hthere : onlyAt there (.lacksEntry "no entry") there = .lacksEntry "no entry" := if_pos rfl
  have htries : Tries (onlyAt there (.lacksEntry "no entry"))
      (config.library.toList ++ defaultLibraryPaths) refused (some there) := by
    refine ⟨⟨[.ofText "libigdmd.so"], rfl⟩, fun refusal hmem => ?_,
      fun path hpath reason => ?_, nofun⟩
    · obtain ⟨hpath, hreason⟩ := helsewhere refusal hmem
      rw [onlyAt, if_neg hpath, hreason]
    · rw [← Option.some.inj hpath, hthere]
      exact nofun
  obtain ⟨hlogged, -, hentryless, -, hasks⟩ :=
    ((load_first_that_opens _).1 config).endsIn refused (some there) htries
  refine ⟨hentryless there rfl _ hthere, hlogged, (hasks _ fun path hpath => ?_).1⟩
  exact if_neg (hlast path hpath)

end GpuMonitor
