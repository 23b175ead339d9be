import DyunGu.Graph.Tightening

namespace DyunGu
namespace Graph
namespace FileSystem

open DyunGu.Core (ResourcePolicy)

variable {Path : Type}

/-!
# What a load depends on

The loader enters every file that it opens into the list of files it has met,
before it opens it.  A load that succeeds therefore gives the same again in
every file system that has the same paths and the same contents of these files.
-/

/-- The paths mean the same, and files are parsed in the same way. -/
structure SameNames (fs other : FileSystem Path) : Prop where
  canonicalize : other.canonicalize = fs.canonicalize
  parse : other.parse = fs.parse
  extension : other.extension = fs.extension
  parent : other.parent = fs.parent
  join : other.join = fs.join
  startsWith : other.startsWith = fs.startsWith

namespace SameNames

variable {fs other third : FileSystem Path}

theorem refl (fs : FileSystem Path) : SameNames fs fs := ⟨rfl, rfl, rfl, rfl, rfl, rfl⟩

theorem trans (first : SameNames fs other) (second : SameNames other third) :
    SameNames fs third where
  canonicalize := second.canonicalize.trans first.canonicalize
  parse := second.parse.trans first.parse
  extension := second.extension.trans first.extension
  parent := second.parent.trans first.parent
  join := second.join.trans first.join
  startsWith := second.startsWith.trans first.startsWith

theorem symm (same : SameNames fs other) : SameNames other fs where
  canonicalize := same.canonicalize.symm
  parse := same.parse.symm
  extension := same.extension.symm
  parent := same.parent.symm
  join := same.join.symm
  startsWith := same.startsWith.symm

theorem readSpec (same : SameNames fs other) {path file : Path}
    (agrees : other.open_ file = fs.open_ file) (policy : ResourcePolicy)
    (state : LoadState Path) :
    other.readSpec path file policy state = fs.readSpec path file policy state := by
  have format : other.formatFromPath path = fs.formatFromPath path := by
    unfold formatFromPath
    rw [same.extension]
  have content : forall limit, other.readLimited file limit = fs.readLimited file limit := by
    intro limit
    unfold readLimited
    rw [agrees]
  have parsed : forall input format,
      other.fromStrWithPolicy input format policy = fs.fromStrWithPolicy input format policy := by
    intro input format
    unfold fromStrWithPolicy
    rw [same.parse]
  unfold FileSystem.readSpec
  rw [format]
  simp only [content, parsed]

end SameNames

variable [DecidableEq Path]

section Frame

variable {fs other : FileSystem Path}

/-- A load that enters what it opens, and gives the same where these files are
the same. -/
structure Framed (fs other : FileSystem Path) (load again : Path -> LoadState Path -> Outcome Path) :
    Prop where
  keeps : forall {path before spec after}, load path before = some (.ok (spec, after)) ->
    before.included ⊆ after.included
  same : forall {path before spec after file}, load path before = some (.ok (spec, after)) ->
    fs.canonicalize path = .ok file -> file ∈ before.included ->
    (forall opened, opened ∈ after.included -> other.open_ opened = fs.open_ opened) ->
    again path before = some (.ok (spec, after))
  readable : forall {path before spec after file error},
    load path before = some (.ok (spec, after)) -> fs.canonicalize path = .ok file ->
    fs.open_ file ≠ .error error

theorem meet_included {base file : Path} (differ : base ≠ file) (state : LoadState Path) :
    state.included ⊆ (meet base file state).included ∧
      file ∈ (meet base file state).included := by
  unfold meet
  rw [if_neg differ]
  exact ⟨List.subset_append_left _ _, List.mem_append_right _ List.mem_cons_self⟩

omit [DecidableEq Path] in
/-- The directory of a file is not one of its includes, or else it was opened. -/
theorem Framed.differs {load again : Path -> LoadState Path -> Outcome Path}
    (framed : Framed fs other load again) {dir base path file owner : Path}
    {before after : LoadState Path} {spec : GraphSpec} (parent : fs.parent owner = some dir)
    (canonical : fs.canonicalize dir = .ok base) (isFile : fs.canonicalize path = .ok file)
    (loaded : load path before = some (.ok (spec, after))) : base ≠ file := by
  intro equal
  rcases fs.directory owner dir base parent canonical with ⟨error, closed⟩
  subst equal
  exact framed.readable loaded isFile closed

theorem Framed.includes {load again : Path -> LoadState Path -> Outcome Path}
    (framed : Framed fs other load again) (names : SameNames fs other) {dir base owner : Path}
    (parent : fs.parent owner = some dir) (canonical : fs.canonicalize dir = .ok base)
    {policy : ResourcePolicy} {merged result : GraphSpec} {before after : LoadState Path}
    {includes : List String}
    (loaded : fs.loadIncludes load base policy merged before includes =
      some (.ok (result, after))) :
    before.included ⊆ after.included ∧
      ((forall opened, opened ∈ after.included -> other.open_ opened = fs.open_ opened) ->
        other.loadIncludes again base policy merged before includes =
          some (.ok (result, after))) := by
  induction includes generalizing merged before with
  | nil =>
      cases loaded
      exact ⟨List.Subset.refl _, fun _ => rfl⟩
  | cons include_ includes ih =>
      rcases loadIncludes_ok loaded with
        ⟨file, included, state, isFile, inside, few, first, rest⟩
      rcases meet_included (framed.differs parent canonical isFile first) before with
        ⟨kept, entered⟩
      have grown := framed.keeps first
      rcases ih rest with ⟨restGrown, restSame⟩
      refine ⟨List.Subset.trans (List.Subset.trans kept grown) restGrown, fun agrees => ?_⟩
      have firstToo := framed.same first isFile entered
        fun opened member => agrees opened (restGrown member)
      unfold loadIncludes
      rw [names.canonicalize, names.join, isFile]
      dsimp only
      rw [names.startsWith, inside, if_neg (by simp), if_neg (Nat.not_lt.mpr few), firstToo]
      exact restSame agrees

theorem framed_tracked (names : SameNames fs other) (registry : Registry)
    (render : Value -> String) (depth : Nat) (policy : ResourcePolicy) :
    Framed fs other (fs.loadFromPathTracked registry render depth policy)
      (other.loadFromPathTracked registry render depth policy) := by
  induction depth generalizing policy with
  | zero =>
      refine ⟨fun loaded => ?_, fun loaded => ?_, fun loaded => ?_⟩ <;> cases loaded
  | succ depth ih =>
      -- The files met while one file is loaded, and the same load elsewhere.
      have whole : forall {path before spec after},
          fs.loadFromPathTracked registry render (depth + 1) policy path before =
            some (.ok (spec, after)) ->
          Exists fun file => fs.canonicalize path = .ok file ∧
            before.included ⊆ after.included ∧
            ((forall opened, opened ∈ file :: after.included ->
                other.open_ opened = fs.open_ opened) ->
              other.loadFromPathTracked registry render (depth + 1) policy path before =
                some (.ok (spec, after))) := by
        intro path before spec after loaded
        rcases tracked_ok loaded with
          ⟨rest, file, parsed, effective, read, state, more, canonical, fresh, reads, normalized,
            rfl⟩
        cases more
        have sameMet : read.included = before.included := by
          rcases readSpec_parts reads with ⟨_, _, _, _, _, _, _, _, _, _, rfl⟩
          rfl
        have readsToo : other.open_ file = fs.open_ file ->
            other.readSpec path file policy
              { before with resolving := file :: before.resolving } =
                .ok (parsed, effective, read) :=
          fun agrees => (names.readSpec agrees _ _).trans reads
        rcases normalizeTracked_ok normalized with ⟨merged, header, finished, included⟩
        refine ⟨file, canonical, ?_, fun agrees => ?_⟩
        · rcases included with ⟨_, _, _, rfl⟩ | ⟨dir, base, parent, directory, loop⟩
          · exact fun opened member => sameMet ▸ member
          · exact sameMet ▸ ((ih effective).includes names parent directory loop).1
        · refine tracked_of state (names.canonicalize ▸ canonical) fresh
            (readsToo (agrees file List.mem_cons_self))
            (normalizeTracked_of header finished ?_)
          rcases included with ⟨noParent, none_, isMerged, same⟩ |
            ⟨dir, base, parent, directory, loop⟩
          · exact Or.inl ⟨names.parent ▸ noParent, none_, isMerged, same⟩
          · refine Or.inr ⟨dir, base, names.parent ▸ parent, names.canonicalize ▸ directory, ?_⟩
            exact ((ih effective).includes names parent directory loop).2
              fun opened member => agrees opened (List.mem_cons_of_mem _ member)
      refine ⟨fun loaded => ?_, fun loaded isFile entered agrees => ?_,
        fun loaded isFile closed => tracked_unreadable isFile closed loaded⟩
      · rcases whole loaded with ⟨_, _, kept, _⟩
        exact kept
      · rcases whole loaded with ⟨_, canonical, kept, again⟩
        rw [isFile] at canonical
        cases canonical
        refine again fun opened member => ?_
        rcases List.mem_cons.mp member with rfl | isMet
        · exact agrees _ (kept entered)
        · exact agrees _ isMet

end Frame

/-- A load that succeeds depends on the contents of no other files than those
that it reports. -/
theorem load_reads_tracked {fs other : FileSystem Path} (names : SameNames fs other)
    {registry : Registry} {render : Value -> String} {depth : Nat} {policy : ResourcePolicy}
    {main : Path} {spec : GraphSpec} {state : LoadState Path}
    (loaded : fs.loadFromPath registry render depth policy main = some (.ok (spec, state)))
    (agrees : forall file, file ∈ state.included -> other.open_ file = fs.open_ file) :
    other.loadFromPath registry render depth policy main = some (.ok (spec, state)) := by
  unfold loadFromPath at loaded ⊢
  rw [names.canonicalize]
  split at loaded
  · cases loaded
  · rename_i file canonical
    exact (framed_tracked names registry render depth policy).same loaded canonical
      List.mem_cons_self agrees

/-- A desk with a third file, which nothing includes. -/
def litteredDesk : FileSystem String :=
  { desk 109 112 with
    open_ := fun path => if path = "/g/notes.txt" then .ok [110] else (desk 109 112).open_ path
    directory := by
      intro file dir base parent canonical
      cases parent
      cases canonical
      exact ⟨.io "Is a directory", rfl⟩ }

theorem litteredDesk_loads :
    litteredDesk.loadFromPath noElements (fun _ => "") 3 ResourcePolicy.default "/g/main.json" =
      some (.ok (GraphSpec.default, ⟨[], ["/g/main.json", "/g/part.json"], 2⟩)) := by
  have names : SameNames (desk 109 112) litteredDesk := ⟨rfl, rfl, rfl, rfl, rfl, rfl⟩
  refine load_reads_tracked names (by decide +kernel) fun file member => ?_
  have other : file ≠ "/g/notes.txt" := by
    intro isNotes
    subst isNotes
    revert member
    decide
  exact if_neg other

end FileSystem
end Graph
end DyunGu
