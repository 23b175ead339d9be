import DyunGu.Graph.Connections
import DyunGu.Stream.Error
import Mathlib.Data.List.Basic
import Mathlib.Data.List.TakeWhile

namespace DyunGu
namespace Stream

open DyunGu.Graph.ConnectionSpec (splitOnce splitOnce_eq_some splitOnce_char_eq_some)

/-!
# Which parts of a URL show in redacted texts

A URL consists of public parts, its scheme, host and path, and of parts that
may hold secrets, its userinfo, query and fragment.  Redaction is to give the
same text for all secrets.  Whether it does depends on where the URL stands in
the text and on what kind of secrets it holds: which of the parts are there,
and whether the userinfo holds an at sign or a slash.
-/

/-! ## Splitting -/

section Splitting

variable {separator text : List Char} {c : Char}

theorem splitOnce_char_none (absent : c ∉ text) : splitOnce [c] text = none := by
  cases found : splitOnce [c] text with
  | none => rfl
  | some parts =>
      rcases splitOnce_char_eq_some.mp found with ⟨rfl, -⟩
      exact absurd (List.mem_append_right _ List.mem_cons_self) absent

theorem splitOnce_char {before : List Char} (absent : c ∉ before) (after : List Char) :
    splitOnce [c] (before ++ c :: after) = some (before, after) :=
  splitOnce_char_eq_some.mpr ⟨rfl, absent⟩

theorem splitOnce_parts (isText : separator ≠ []) {left right : List Char}
    (split : splitOnce separator text = some (left, right)) :
    text = left ++ separator ++ right :=
  ((splitOnce_eq_some isText).mp split).1

/-- What follows does not change where a text is split. -/
theorem splitOnce_append (isText : separator ≠ []) {left right : List Char}
    (split : splitOnce separator text = some (left, right)) (more : List Char) :
    splitOnce separator (text ++ more) = some (left, right ++ more) := by
  rcases (splitOnce_eq_some isText).mp split with ⟨rfl, absent⟩
  apply (splitOnce_eq_some isText).mpr
  exact ⟨List.append_assoc _ _ _, absent⟩

/-- A text that ends in the separator is split, at its end or before. -/
theorem splitOnce_concat (before : List Char) :
    Exists fun left => Exists fun right =>
      splitOnce schemeSeparator (before ++ schemeSeparator) = some (left, right) := by
  induction before with
  | nil => exact ⟨[], [], rfl⟩
  | cons d before ih =>
      rcases ih with ⟨left, right, found⟩
      rw [List.cons_append, splitOnce]
      split
      · exact ⟨_, _, rfl⟩
      · rw [found]
        exact ⟨_, _, rfl⟩

theorem splitOnce_scheme {scheme : List Char} (noColon : ':' ∉ scheme) :
    splitOnce schemeSeparator (scheme ++ schemeSeparator) = some (scheme, []) := by
  induction scheme with
  | nil => rfl
  | cons d scheme ih =>
      rw [List.mem_cons, not_or] at noColon
      have other : schemeSeparator.isPrefixOf (d :: (scheme ++ schemeSeparator)) = false := by
        simp [schemeSeparator, List.isPrefixOf, noColon.1]
      rw [List.cons_append, splitOnce, other, if_neg Bool.false_ne_true, ih noColon.2]
      rfl

end Splitting

/-! ## Cutting off queries and fragments -/

/-- A character that begins a query or a fragment. -/
def cuts (c : Char) : Bool := decide (c = '?') || decide (c = '#')

def Cut (text : List Char) : Prop := Exists fun c => c ∈ text ∧ cuts c = true

theorem upTo_eq (c : Char) (text : List Char) :
    upTo c text = text.takeWhile fun d => decide (d ≠ c) := by
  unfold upTo
  induction text with
  | nil => rfl
  | cons d text ih =>
      unfold splitOnce
      by_cases same : d = c
      · simp [List.isPrefixOf, same]
      · have other : [c].isPrefixOf (d :: text) = false := by
          simp [List.isPrefixOf, Ne.symm same]
        rw [other, if_neg Bool.false_ne_true, List.takeWhile_cons_of_pos (by simp [same]), ← ih]
        cases splitOnce [c] text <;> rfl

theorem stripQueryFragment_eq (text : List Char) :
    stripQueryFragment text = text.takeWhile fun c => !cuts c := by
  unfold stripQueryFragment
  rw [upTo_eq, upTo_eq, List.takeWhile_takeWhile]
  congr 1
  funext c
  simp [cuts, Bool.and_comm]

theorem strip_append {text : List Char} (plain : ¬ Cut text) (more : List Char) :
    stripQueryFragment (text ++ more) = text ++ stripQueryFragment more := by
  rw [stripQueryFragment_eq, stripQueryFragment_eq, List.takeWhile_append_of_pos]
  intro c member
  rw [Bool.not_eq_true']
  by_contra isCut
  exact plain ⟨c, member, Bool.of_not_eq_false isCut⟩

theorem strip_of_cut {text : List Char} (cut : Cut text) (more : List Char) :
    stripQueryFragment (text ++ more) = stripQueryFragment text := by
  rcases cut with ⟨c, member, isCut⟩
  rw [stripQueryFragment_eq, stripQueryFragment_eq]
  induction text with
  | nil => cases member
  | cons d text ih =>
      rw [List.cons_append]
      by_cases isFirst : cuts d = true
      · rw [List.takeWhile_cons_of_neg (by simp [isFirst]),
          List.takeWhile_cons_of_neg (by simp [isFirst])]
      · have inRest : c ∈ text := by
          rcases List.mem_cons.mp member with same | inRest
          · exact absurd (same ▸ isCut) isFirst
          · exact inRest
        rw [List.takeWhile_cons_of_pos (by simp [isFirst]),
          List.takeWhile_cons_of_pos (by simp [isFirst]), ih inRest]

theorem strip_cons_cut {c : Char} (isCut : cuts c = true) (more : List Char) :
    stripQueryFragment (c :: more) = [] := by
  rw [stripQueryFragment_eq, List.takeWhile_cons_of_neg (by simp [isCut])]

theorem strip_cons {c : Char} (plain : cuts c = false) (more : List Char) :
    stripQueryFragment (c :: more) = c :: stripQueryFragment more := by
  rw [stripQueryFragment_eq, stripQueryFragment_eq, List.takeWhile_cons_of_pos (by simp [plain])]

/-! ## URLs and their secrets -/

/-- The public parts of a URL. -/
structure Url where
  scheme : List Char
  host : List Char
  path : Option (List Char)
  scheme_plain : forall c, c ∈ scheme -> c ≠ ':' ∧ cuts c = false
  host_plain : forall c, c ∈ host -> c ≠ '/' ∧ c ≠ '@' ∧ cuts c = false
  path_plain : forall path', path = some path' -> ¬ Cut path'

structure Secrets where
  userinfo : Option (List Char)
  query : Option (List Char)
  fragment : Option (List Char)

/-- Kinds of userinfo: none, one without at signs and slashes, one with such a
separator, and any. -/
inductive UserKind where
  | absent
  | clean
  | dirty
  | any
deriving DecidableEq, Repr

def UserKind.Fits : UserKind -> Option (List Char) -> Prop
  | .absent, userinfo => userinfo = none
  | .clean, userinfo => Exists fun user => userinfo = some user ∧ '@' ∉ user ∧ '/' ∉ user
  | .dirty, userinfo => Exists fun user => userinfo = some user ∧ ('@' ∈ user ∨ '/' ∈ user)
  | .any, userinfo => Exists fun user => userinfo = some user

/-- No userinfo of the kind holds a separator. -/
def UserKind.Tidy (kind : UserKind) : Prop := kind = .absent ∨ kind = .clean

instance (kind : UserKind) : Decidable kind.Tidy := inferInstanceAs (Decidable (_ ∨ _))

/-- Which parts there are, and what the userinfo may hold. -/
structure Kind where
  userinfo : UserKind
  query : Bool
  fragment : Bool
deriving DecidableEq, Repr

structure Kind.Fits (kind : Kind) (secrets : Secrets) : Prop where
  userinfo : kind.userinfo.Fits secrets.userinfo
  query : secrets.query.isSome = kind.query
  fragment : secrets.fragment.isSome = kind.fragment

/-- A query or a fragment is there. -/
def Kind.tailed (kind : Kind) : Bool := kind.query || kind.fragment

/-- A part with the character before it. -/
def led (c : Char) : Option (List Char) -> List Char
  | none => []
  | some part => c :: part

def userPart : Option (List Char) -> List Char
  | none => []
  | some userinfo => userinfo ++ ['@']

def Secrets.tail (secrets : Secrets) : List Char :=
  led '?' secrets.query ++ led '#' secrets.fragment

namespace Url

/-- Host and path, which stand between the secrets. -/
def middle (url : Url) : List Char := url.host ++ led '/' url.path

/-- The URL behind its scheme, and what follows it in a text. -/
def rest (url : Url) (secrets : Secrets) (after : List Char) : List Char :=
  userPart secrets.userinfo ++ (url.middle ++ (secrets.tail ++ after))

/-- The URL within a text. -/
def within (url : Url) (before : List Char) (secrets : Secrets) (after : List Char) :
    List Char :=
  before ++ url.scheme ++ schemeSeparator ++ url.rest secrets after

def text (url : Url) (secrets : Secrets) : List Char := url.within [] secrets []

/-- A URL that stands alone is taken apart in a way that leaves out secrets of
this kind. -/
def Covered (url : Url) (kind : Kind) : Prop :=
  if isKnown url.scheme then
    kind.userinfo.Tidy ∧ (url.path.isSome = true ∨ kind.tailed = false)
  else kind.userinfo = .absent

/-- The same for a URL behind a text: the scan finds the first separator of
a scheme, which may be one before the URL. -/
def CoveredIn (url : Url) (before : List Char) (kind : Kind) : Prop :=
  match splitOnce schemeSeparator (before ++ url.scheme ++ schemeSeparator) with
  | none => True
  | some (scheme, afterScheme) =>
      if isKnown scheme then
        match splitOnce ['/'] afterScheme with
        | some (_, path) => kind.userinfo = .absent ∨ Cut path
        | none => kind.userinfo.Tidy ∧ (url.path.isSome = true ∨ kind.tailed = false)
      else kind.userinfo = .absent ∨ Cut before

theorem middle_plain (url : Url) : ¬ Cut url.middle := by
  rintro ⟨c, member, isCut⟩
  rcases List.mem_append.mp member with inHost | inPath
  · rw [(url.host_plain c inHost).2.2] at isCut
    cases isCut
  · cases path : url.path with
    | none =>
        rw [path] at inPath
        cases inPath
    | some path' =>
        rw [path] at inPath
        rcases List.mem_cons.mp inPath with isSlash | inPath
        · rw [isSlash] at isCut
          revert isCut
          decide
        · exact url.path_plain path' path ⟨c, inPath, isCut⟩

/-! ## The tail and the userinfo -/

variable {kind : Kind} {secrets : Secrets}

theorem tail_of_tailed (fits : kind.Fits secrets) (tailed : kind.tailed = true) :
    Exists fun c => Exists fun more => secrets.tail = c :: more ∧ cuts c = true := by
  unfold Kind.tailed at tailed
  rw [← fits.query, ← fits.fragment, Bool.or_eq_true] at tailed
  unfold Secrets.tail
  cases query : secrets.query with
  | some part => exact ⟨'?', _, rfl, by decide⟩
  | none =>
      cases fragment : secrets.fragment with
      | some part => exact ⟨'#', _, rfl, by decide⟩
      | none => simp [query, fragment] at tailed

theorem tail_of_not_tailed (fits : kind.Fits secrets) (bare : kind.tailed = false) :
    secrets.tail = [] := by
  unfold Kind.tailed at bare
  rw [← fits.query, ← fits.fragment, Bool.or_eq_false_iff] at bare
  unfold Secrets.tail
  rw [Option.isSome_eq_false_iff, Option.isNone_iff_eq_none] at bare
  rw [Option.isSome_eq_false_iff, Option.isNone_iff_eq_none] at bare
  rw [bare.1, bare.2]
  rfl

/-- What is left of a part behind which the secrets stand. -/
def stripped (kind : Kind) (part after : List Char) : List Char :=
  if kind.tailed then part else part ++ stripQueryFragment after

theorem strip_tail (fits : kind.Fits secrets) {part : List Char} (plain : ¬ Cut part)
    (after : List Char) :
    stripQueryFragment (part ++ (secrets.tail ++ after)) = stripped kind part after := by
  unfold stripped
  rw [strip_append plain]
  cases tailed : kind.tailed with
  | true =>
      rcases tail_of_tailed fits tailed with ⟨c, more, isTail, isCut⟩
      rw [isTail, List.cons_append, strip_cons_cut isCut, List.append_nil]
      rfl
  | false =>
      rw [tail_of_not_tailed fits tailed]
      rfl

/-- What stands before the path, with a userinfo or without one. -/
theorem tidy_cases (fits : kind.Fits secrets) (tidy : kind.userinfo.Tidy) :
    (kind.userinfo = .absent ∧ secrets.userinfo = none) ∨
    (kind.userinfo = .clean ∧
      Exists fun user => secrets.userinfo = some user ∧ '@' ∉ user ∧ '/' ∉ user) := by
  have user := fits.userinfo
  rcases tidy with absent | clean
  · rw [absent] at user
    exact Or.inl ⟨absent, user⟩
  · rw [clean] at user
    exact Or.inr ⟨clean, user⟩

/-! ## What is shown behind the scheme -/

theorem hostOf_user {user : List Char} (noAt : '@' ∉ user) (more : List Char) :
    hostOf (user ++ '@' :: more) = more := by
  unfold hostOf
  rw [splitOnce_char noAt]

theorem hostOf_plain {authority : List Char} (noAt : '@' ∉ authority) :
    hostOf authority = authority := by
  unfold hostOf
  rw [splitOnce_char_none noAt]

theorem redactRest_slash {authority : List Char} (noSlash : '/' ∉ authority)
    (path : List Char) :
    redactRest (authority ++ '/' :: path) = hostOf authority ++ pathOf path := by
  unfold redactRest
  rw [splitOnce_char noSlash]

theorem redactRest_plain {authority : List Char} (noSlash : '/' ∉ authority) :
    redactRest authority = hostOf authority := by
  unfold redactRest
  rw [splitOnce_char_none noSlash]

/-- The text behind a userinfo, shown up to its path. -/
def keep (text : List Char) : List Char :=
  match splitOnce ['/'] text with
  | some (authority, path) => authority ++ pathOf path
  | none => text

theorem redactRest_user {user : List Char} (noAt : '@' ∉ user) (noSlash : '/' ∉ user)
    (more : List Char) : redactRest (user ++ '@' :: more) = keep more := by
  unfold keep
  by_cases slash : '/' ∈ more
  · rcases List.eq_append_cons_of_mem slash with ⟨left, right, isMore, absent⟩
    have whole : user ++ '@' :: more = (user ++ '@' :: left) ++ '/' :: right := by
      rw [isMore]
      simp
    have noSlashLeft : '/' ∉ user ++ '@' :: left := by simp [noSlash, absent]
    rw [whole, redactRest_slash noSlashLeft, hostOf_user noAt, isMore, splitOnce_char absent]
  · have none : '/' ∉ user ++ '@' :: more := by simp [noSlash, slash]
    rw [redactRest_plain none, hostOf_user noAt, splitOnce_char_none slash]

theorem keep_append {left : List Char} (noSlash : '/' ∉ left) (more : List Char) :
    keep (left ++ more) = left ++ keep more := by
  unfold keep
  by_cases slash : '/' ∈ more
  · rcases List.eq_append_cons_of_mem slash with ⟨first, right, isMore, absent⟩
    have noSlashBoth : '/' ∉ left ++ first := by simp [noSlash, absent]
    rw [isMore, ← List.append_assoc, splitOnce_char noSlashBoth, splitOnce_char absent]
    exact List.append_assoc _ _ _
  · have none : '/' ∉ left ++ more := by simp [noSlash, slash]
    rw [splitOnce_char_none none, splitOnce_char_none slash]

theorem keep_slash (path : List Char) : keep ('/' :: path) = pathOf path := by
  have split := splitOnce_char (List.not_mem_nil (a := '/')) path
  unfold keep
  rw [List.nil_append] at split
  rw [split]
  rfl

theorem host_noSlash (url : Url) : '/' ∉ url.host :=
  fun member => (url.host_plain '/' member).1 rfl

theorem host_noAt (url : Url) : '@' ∉ url.host :=
  fun member => (url.host_plain '@' member).2.1 rfl

/-- With a path, all that is shown is host and path. -/
theorem redactRest_path {url : Url} {path : List Char} (isPath : url.path = some path)
    (fits : kind.Fits secrets) (tidy : kind.userinfo.Tidy) (after : List Char) :
    redactRest (url.rest secrets after) =
      url.host ++ pathOf (path ++ (secrets.tail ++ after)) := by
  unfold rest middle
  rw [isPath]
  show redactRest (userPart secrets.userinfo ++
    ((url.host ++ '/' :: path) ++ (secrets.tail ++ after))) = _
  rw [List.append_assoc url.host, List.cons_append]
  rcases tidy_cases fits tidy with ⟨_, none⟩ | ⟨_, user, isUser, noAt, noSlash⟩
  · rw [none]
    show redactRest (url.host ++ '/' :: (path ++ (secrets.tail ++ after))) = _
    rw [redactRest_slash url.host_noSlash, hostOf_plain url.host_noAt]
  · rw [isUser]
    show redactRest ((user ++ ['@']) ++ (url.host ++ '/' :: (path ++ (secrets.tail ++ after)))) = _
    rw [List.append_assoc, List.singleton_append, redactRest_user noAt noSlash,
      keep_append url.host_noSlash, keep_slash]

/-- Without a path and without a query or fragment. -/
theorem redactRest_bare {url : Url} (noPath : url.path = none) (fits : kind.Fits secrets)
    (tidy : kind.userinfo.Tidy) (bare : kind.tailed = false) (after : List Char) :
    redactRest (url.rest secrets after) =
      if kind.userinfo = .absent then redactRest (url.host ++ after)
      else keep (url.host ++ after) := by
  unfold rest middle
  rw [noPath, tail_of_not_tailed fits bare]
  show redactRest (userPart secrets.userinfo ++ (url.host ++ [] ++ ([] ++ after))) = _
  rw [List.append_nil, List.nil_append]
  rcases tidy_cases fits tidy with ⟨absent, none⟩ | ⟨clean, user, isUser, noAt, noSlash⟩
  · rw [if_pos absent, none]
    rfl
  · have present : kind.userinfo ≠ .absent := by
      rw [clean]
      decide
    rw [isUser, if_neg present]
    show redactRest ((user ++ ['@']) ++ (url.host ++ after)) = _
    rw [List.append_assoc, List.singleton_append, redactRest_user noAt noSlash]

/-! ## Secrets that show -/

/-- A character that no scan looks for. -/
def Letter (c : Char) : Prop := c ≠ '/' ∧ c ≠ '@' ∧ cuts c = false

instance (c : Char) : Decidable (Letter c) := inferInstanceAs (Decidable (_ ∧ _ ∧ _))

/-- A userinfo of a kind, with an at sign where the kind admits one. -/
def probeUser (c : Char) : UserKind -> Option (List Char)
  | .absent => none
  | .clean => some [c]
  | .dirty | .any => some ['@', c]

/-- Secrets of a kind that hold one character in every part. -/
def probe (kind : Kind) (c : Char) : Secrets where
  userinfo := probeUser c kind.userinfo
  query := if kind.query then some ['/', c] else none
  fragment := if kind.fragment then some ['/', c] else none

theorem probe_fits (kind : Kind) {c : Char} (letter : Letter c) : kind.Fits (probe kind c) where
  userinfo := by
    unfold probe
    cases kind.userinfo with
    | absent => rfl
    | clean => exact ⟨[c], rfl, by simp [letter.2.1.symm], by simp [letter.1.symm]⟩
    | dirty => exact ⟨['@', c], rfl, by simp⟩
    | any => exact ⟨['@', c], rfl⟩
  query := by cases query : kind.query <;> simp [probe, query]
  fragment := by cases fragment : kind.fragment <;> simp [probe, fragment]

/-- A text that shows the character. -/
def Exposes (shown : Char -> List Char) : Prop :=
  Exists fun left => forall c, Letter c -> Exists fun right => shown c = left ++ c :: right

theorem Exposes.differs {shown : Char -> List Char} (exposes : Exposes shown) :
    shown 'a' ≠ shown 'b' := by
  rcases exposes with ⟨left, each⟩
  rcases each 'a' (by decide) with ⟨first, isFirst⟩
  rcases each 'b' (by decide) with ⟨second, isSecond⟩
  rw [isFirst, isSecond]
  intro same
  have heads := List.append_cancel_left same
  cases heads

theorem Exposes.append {shown : Char -> List Char} (exposes : Exposes shown)
    (before : List Char) : Exposes fun c => before ++ shown c := by
  rcases exposes with ⟨left, each⟩
  refine ⟨before ++ left, fun c letter => ?_⟩
  rcases each c letter with ⟨right, isShown⟩
  refine ⟨right, ?_⟩
  show before ++ shown c = _
  rw [isShown, List.append_assoc]

/-- What follows the userinfo in the URL of the probe. -/
def behind (url : Url) (kind : Kind) (after : List Char) (c : Char) : List Char :=
  '@' :: (url.middle ++ ((probe kind c).tail ++ after))

theorem rest_probe (url : Url) (after : List Char) {c : Char} {user : List Char}
    (isUser : probeUser c kind.userinfo = some user) :
    url.rest (probe kind c) after = user ++ url.behind kind after c := by
  unfold rest behind
  show userPart (probeUser c kind.userinfo) ++ _ = _
  rw [isUser]
  exact List.append_assoc user ['@'] _

/-- Where the userinfo of the probe begins with the character or has it behind
an at sign. -/
theorem probeUser_cases (present : kind.userinfo ≠ .absent) :
    (forall c, probeUser c kind.userinfo = some [c]) ∨
      (forall c, probeUser c kind.userinfo = some ['@', c]) := by
  cases user : kind.userinfo with
  | absent => exact absurd user present
  | clean => exact Or.inl fun _ => rfl
  | dirty => exact Or.inr fun _ => rfl
  | any => exact Or.inr fun _ => rfl

/-- A userinfo shows where only queries and fragments are cut off. -/
theorem strip_exposes (present : kind.userinfo ≠ .absent) (url : Url) (after : List Char) :
    Exposes fun c => stripQueryFragment (url.rest (probe kind c) after) := by
  rcases probeUser_cases present with single | double
  · refine ⟨[], fun c letter => ⟨stripQueryFragment (url.behind kind after c), ?_⟩⟩
    show stripQueryFragment (url.rest (probe kind c) after) = _
    rw [rest_probe url after (single c)]
    exact strip_cons letter.2.2 _
  · refine ⟨['@'], fun c letter => ⟨stripQueryFragment (url.behind kind after c), ?_⟩⟩
    show stripQueryFragment (url.rest (probe kind c) after) = _
    rw [rest_probe url after (double c)]
    show stripQueryFragment ('@' :: c :: url.behind kind after c) = _
    rw [strip_cons (by decide), strip_cons letter.2.2]
    rfl

theorem keep_cons {c : Char} (noSlash : c ≠ '/') (more : List Char) :
    keep (c :: more) = c :: keep more := by
  have single : '/' ∉ [c] := by simpa using noSlash.symm
  exact keep_append single more

/-- Behind a known scheme a userinfo shows that holds separators. -/
theorem redactRest_exposes_user (untidy : ¬ kind.userinfo.Tidy) (url : Url)
    (after : List Char) : Exposes fun c => redactRest (url.rest (probe kind c) after) := by
  have isUser (c : Char) : probeUser c kind.userinfo = some ['@', c] := by
    cases user : kind.userinfo with
    | absent => exact absurd (Or.inl user) untidy
    | clean => exact absurd (Or.inr user) untidy
    | dirty => rfl
    | any => rfl
  refine ⟨[], fun c letter => ⟨keep (url.behind kind after c), ?_⟩⟩
  show redactRest (url.rest (probe kind c) after) = _
  rw [rest_probe url after (isUser c)]
  have shown := redactRest_user (List.not_mem_nil (a := '@')) (List.not_mem_nil (a := '/'))
    (c :: url.behind kind after c)
  exact shown.trans (keep_cons letter.1 _)

/-- The tail of the probe begins like this. -/
theorem probe_tail (tailed : kind.tailed = true) :
    Exists fun lead => (lead ≠ '/' ∧ lead ≠ '@') ∧
      forall c, Exists fun more => (probe kind c).tail = lead :: '/' :: c :: more := by
  unfold Kind.tailed at tailed
  cases query : kind.query with
  | true => exact ⟨'?', by decide, fun c => ⟨_, by simp [probe, Secrets.tail, led, query]; rfl⟩⟩
  | false =>
      rw [query, Bool.false_or] at tailed
      exact ⟨'#', by decide, fun c => ⟨[], by simp [probe, Secrets.tail, led, query, tailed]⟩⟩

/-- Behind a known scheme a query or fragment shows that follows the host. -/
theorem redactRest_exposes_tail (tidy : kind.userinfo.Tidy) (tailed : kind.tailed = true)
    {url : Url} (noPath : url.path = none) (after : List Char) :
    Exposes fun c => redactRest (url.rest (probe kind c) after) := by
  rcases probe_tail tailed with ⟨lead, plain, each⟩
  have noSlash : '/' ∉ url.host ++ [lead] := by
    simp [url.host_noSlash, plain.1.symm]
  have noAt : '@' ∉ url.host ++ [lead] := by
    simp [url.host_noAt, plain.2.symm]
  refine ⟨url.host ++ [lead] ++ ['/'], fun c letter => ?_⟩
  rcases each c with ⟨more, isTail⟩
  refine ⟨stripQueryFragment (more ++ after), ?_⟩
  have shownPath : pathOf (c :: (more ++ after)) =
      '/' :: c :: stripQueryFragment (more ++ after) := by
    unfold pathOf
    rw [strip_cons letter.2.2, if_neg (List.cons_ne_nil _ _)]
  have shape : url.middle ++ ((probe kind c).tail ++ after) =
      (url.host ++ [lead]) ++ '/' :: (c :: (more ++ after)) := by
    unfold middle
    rw [noPath, isTail]
    simp [led]
  show redactRest (userPart (probe kind c).userinfo ++ _) = _
  rw [shape]
  rcases tidy_cases (probe_fits kind letter) tidy with
    ⟨_, none⟩ | ⟨_, user, isUser, userNoAt, userNoSlash⟩
  · rw [none]
    show redactRest ((url.host ++ [lead]) ++ '/' :: (c :: (more ++ after))) = _
    rw [redactRest_slash noSlash, hostOf_plain noAt, shownPath]
    simp
  · rw [isUser]
    show redactRest ((user ++ ['@']) ++ _) = _
    rw [List.append_assoc, List.singleton_append, redactRest_user userNoAt userNoSlash,
      keep_append noSlash, keep_slash, shownPath]
    simp

/-! ## The URL in a text -/

/-- How the text before the secrets is taken apart settles how the whole is
redacted. -/
theorem redact_within (url : Url) (before : List Char) {scheme afterScheme : List Char}
    (split : splitOnce schemeSeparator (before ++ url.scheme ++ schemeSeparator) =
      some (scheme, afterScheme)) (secrets : Secrets) (after : List Char) :
    redactUrlTokens (url.within before secrets after) =
      if isKnown scheme then
        scheme ++ schemeSeparator ++ redactRest (afterScheme ++ url.rest secrets after)
      else stripQueryFragment
        (before ++ url.scheme ++ schemeSeparator ++ url.rest secrets after) := by
  unfold redactUrlTokens within
  rw [splitOnce_append (by decide) split]

/-- Where the text is taken apart before the URL, a slash follows. -/
theorem noSlash_nil {before scheme afterScheme : List Char}
    (split : splitOnce schemeSeparator (before ++ schemeSeparator) = some (scheme, afterScheme))
    (noSlash : '/' ∉ afterScheme) : afterScheme = [] := by
  have whole := splitOnce_parts (by decide) split
  rcases List.eq_nil_or_concat afterScheme with nil | ⟨front, last, isAfter⟩
  · exact nil
  · exfalso
    apply noSlash
    rw [List.concat_eq_append] at isAfter
    rw [isAfter] at whole ⊢
    have ends : (before ++ [':', '/']) ++ ['/'] =
        (scheme ++ schemeSeparator ++ front) ++ [last] := by
      rw [List.append_assoc (scheme ++ schemeSeparator), ← whole]
      unfold schemeSeparator
      simp
    have isLast := (List.append_inj' ends rfl).2
    cases isLast
    simp

theorem cut_within (url : Url) (before : List Char) :
    Cut (before ++ url.scheme ++ schemeSeparator) <-> Cut before := by
  constructor
  · rintro ⟨c, member, isCut⟩
    rw [List.mem_append, List.mem_append] at member
    rcases member with (inBefore | inScheme) | inSeparator
    · exact ⟨c, inBefore, isCut⟩
    · rw [(url.scheme_plain c inScheme).2] at isCut
      cases isCut
    · exfalso
      revert isCut
      simp only [schemeSeparator, List.mem_cons, List.not_mem_nil, or_false] at inSeparator
      rcases inSeparator with rfl | rfl | rfl <;> decide
  · rintro ⟨c, member, isCut⟩
    exact ⟨c, List.mem_append_left _ (List.mem_append_left _ member), isCut⟩

/-- Without a userinfo, all that is shown is what is left of the middle. -/
theorem strip_rest {url : Url} (fits : kind.Fits secrets) (absent : kind.userinfo = .absent)
    (after : List Char) :
    stripQueryFragment (url.rest secrets after) = stripped kind url.middle after := by
  have none : secrets.userinfo = none := by
    have user := fits.userinfo
    rw [absent] at user
    exact user
  unfold rest
  rw [none]
  exact strip_tail fits url.middle_plain after

/-- The secrets behind a part that is cut off, or without a userinfo. -/
theorem strip_rest_same (url : Url) {first second : Secrets} (fitsFirst : kind.Fits first)
    (fitsSecond : kind.Fits second) {part : List Char}
    (covered : kind.userinfo = .absent ∨ Cut part) (after : List Char) :
    stripQueryFragment (part ++ url.rest first after) =
      stripQueryFragment (part ++ url.rest second after) := by
  by_cases cut : Cut part
  · rw [strip_of_cut cut, strip_of_cut cut]
  · have absent := covered.resolve_right cut
    rw [strip_append cut, strip_append cut, strip_rest fitsFirst absent,
      strip_rest fitsSecond absent]

theorem strip_part_exposes {part : List Char}
    (uncovered : ¬ (kind.userinfo = .absent ∨ Cut part)) (url : Url) (after : List Char) :
    Exposes fun c => stripQueryFragment (part ++ url.rest (probe kind c) after) := by
  rw [not_or] at uncovered
  have exposes := (strip_exposes uncovered.1 url after).append part
  rcases exposes with ⟨left, each⟩
  refine ⟨left, fun c letter => ?_⟩
  rcases each c letter with ⟨right, isShown⟩
  exact ⟨right, (strip_append uncovered.2 _).trans isShown⟩

/-- Secrets of one kind give one text behind a known scheme. -/
theorem redactRest_same {url : Url} {first second : Secrets} (fitsFirst : kind.Fits first)
    (fitsSecond : kind.Fits second) (tidy : kind.userinfo.Tidy)
    (covered : url.path.isSome = true ∨ kind.tailed = false) (after : List Char) :
    redactRest (url.rest first after) = redactRest (url.rest second after) := by
  cases path : url.path with
  | some path' =>
      rw [redactRest_path path fitsFirst tidy, redactRest_path path fitsSecond tidy]
      have plain := url.path_plain path' path
      unfold pathOf
      rw [strip_tail fitsFirst plain, strip_tail fitsSecond plain]
  | none =>
      have bare : kind.tailed = false := by
        rw [path] at covered
        exact covered.resolve_left Bool.false_ne_true
      rw [redactRest_bare path fitsFirst tidy bare, redactRest_bare path fitsSecond tidy bare]

/-- What is shown of a path that the secrets end: a text, or with it one of the
probe that shows the character. -/
theorem pathOf_exposes {shown : Char -> List Char}
    (exposes : Exposes fun c => stripQueryFragment (shown c)) :
    Exposes fun c => pathOf (shown c) := by
  rcases exposes with ⟨left, each⟩
  refine ⟨'/' :: left, fun c letter => ?_⟩
  rcases each c letter with ⟨right, isShown⟩
  refine ⟨right, ?_⟩
  have shownPart : stripQueryFragment (shown c) = left ++ c :: right := isShown
  show pathOf (shown c) = _
  unfold pathOf
  rw [shownPart, if_neg (by simp)]
  rfl

/-- One text for all secrets of a kind, or a text that shows the probe. -/
def Same (kind : Kind) (shown : Secrets -> List Char) : Prop :=
  forall first second, kind.Fits first -> kind.Fits second -> shown first = shown second

theorem Same.append {shown : Secrets -> List Char} (same : Same kind shown)
    (before : List Char) : Same kind fun secrets => before ++ shown secrets :=
  fun first second fitsFirst fitsSecond =>
    congrArg (before ++ ·) (same first second fitsFirst fitsSecond)

theorem not_same {shown : Secrets -> List Char} (exposes : Exposes fun c => shown (probe kind c)) :
    ¬ Same kind shown := by
  intro same
  exact exposes.differs (same _ _ (probe_fits kind (by decide)) (probe_fits kind (by decide)))

/-- Both halves at once: what is covered is the same for all secrets, and what
is not shows the probe. -/
theorem coveredIn_cases (url : Url) (before after : List Char) (kind : Kind) :
    (url.CoveredIn before kind ∧
      Same kind fun secrets => redactUrlTokens (url.within before secrets after)) ∨
    (¬ url.CoveredIn before kind ∧
      Exposes fun c => redactUrlTokens (url.within before (probe kind c) after)) := by
  rcases splitOnce_concat (before ++ url.scheme) with ⟨scheme, afterScheme, split⟩
  have redacted := redact_within url before split
  unfold CoveredIn
  rw [split]
  by_cases known : isKnown scheme = true
  · simp only [redacted, known, if_true]
    cases slash : splitOnce ['/'] afterScheme with
    | some parts =>
        rcases parts with ⟨authority, path⟩
        have shown (secrets : Secrets) : redactRest (afterScheme ++ url.rest secrets after) =
            hostOf authority ++ pathOf (path ++ url.rest secrets after) := by
          unfold redactRest
          rw [splitOnce_append (by decide) slash]
        simp only [shown]
        by_cases covered : kind.userinfo = .absent ∨ Cut path
        · refine Or.inl ⟨covered, fun first second fitsFirst fitsSecond => ?_⟩
          have same := strip_rest_same url fitsFirst fitsSecond covered after
          dsimp only
          unfold pathOf
          rw [same]
        · exact Or.inr ⟨covered,
            ((pathOf_exposes (strip_part_exposes covered url after)).append _).append _⟩
    | none =>
        have noSlash : '/' ∉ afterScheme := by
          intro member
          rcases List.eq_append_cons_of_mem member with ⟨left, right, isAfter, absent⟩
          rw [isAfter, splitOnce_char absent] at slash
          cases slash
        rw [noSlash_nil split noSlash]
        simp only [List.nil_append]
        by_cases tidy : kind.userinfo.Tidy
        · by_cases covered : url.path.isSome = true ∨ kind.tailed = false
          · refine Or.inl ⟨⟨tidy, covered⟩, fun first second fitsFirst fitsSecond => ?_⟩
            exact congrArg _ (redactRest_same fitsFirst fitsSecond tidy covered after)
          · rw [not_or, Bool.not_eq_true, Bool.not_eq_false] at covered
            have noPath : url.path = none := by
              rw [← Option.isNone_iff_eq_none, ← Option.isSome_eq_false_iff]
              exact covered.1
            refine Or.inr ⟨?_, (redactRest_exposes_tail tidy covered.2 noPath after).append _⟩
            rintro ⟨_, pathThere | bare⟩
            · rw [covered.1] at pathThere
              cases pathThere
            · rw [covered.2] at bare
              cases bare
        · exact Or.inr ⟨fun covered => tidy covered.1,
            (redactRest_exposes_user tidy url after).append _⟩
  · simp only [redacted, known, if_false, Bool.false_eq_true]
    by_cases covered : kind.userinfo = .absent ∨ Cut before
    · refine Or.inl ⟨covered, fun first second fitsFirst fitsSecond => ?_⟩
      rw [← cut_within url before] at covered
      exact strip_rest_same url fitsFirst fitsSecond covered after
    · refine Or.inr ⟨covered, ?_⟩
      rw [← cut_within url before] at covered
      exact strip_part_exposes covered url after

theorem coveredIn_iff (url : Url) (before after : List Char) (kind : Kind) :
    (Same kind fun secrets => redactUrlTokens (url.within before secrets after)) <->
      url.CoveredIn before kind := by
  rcases coveredIn_cases url before after kind with ⟨covered, same⟩ | ⟨uncovered, exposes⟩
  · exact ⟨fun _ => covered, fun _ => same⟩
  · exact ⟨fun same => absurd same (not_same exposes), fun covered => absurd covered uncovered⟩

/-! ## A URL alone -/

theorem coveredIn_nil (url : Url) (kind : Kind) : url.CoveredIn [] kind <-> url.Covered kind := by
  have noColon : ':' ∉ url.scheme := fun member => (url.scheme_plain ':' member).1 rfl
  have plain : ¬ Cut [] := by
    rintro ⟨c, member, _⟩
    cases member
  unfold CoveredIn Covered
  rw [List.nil_append, splitOnce_scheme noColon]
  simp only [splitOnce, plain, or_false]

/-- What is shown of a URL without its secrets. -/
def shown (url : Url) : List Char :=
  url.scheme ++ schemeSeparator ++
    if isKnown url.scheme then url.host ++ (url.path.elim [] pathOf) else url.middle

theorem redact_text {url : Url} (fits : kind.Fits secrets) (covered : url.Covered kind) :
    redactUrlTokens (url.text secrets) = url.shown := by
  have noColon : ':' ∉ url.scheme := fun member => (url.scheme_plain ':' member).1 rfl
  have noEnd (part : List Char) : stripped kind part [] = part := by
    unfold stripped
    split
    · rfl
    · exact List.append_nil part
  have split : splitOnce schemeSeparator ([] ++ url.scheme ++ schemeSeparator) =
      some (url.scheme, []) := splitOnce_scheme noColon
  unfold text shown
  rw [redact_within url [] split]
  unfold Covered at covered
  by_cases known : isKnown url.scheme = true
  · rw [if_pos known] at covered ⊢
    rw [if_pos known, List.nil_append]
    cases path : url.path with
    | some path' =>
        have plain := url.path_plain path' path
        have bare : pathOf (path' ++ (secrets.tail ++ [])) = pathOf path' := by
          have alone : stripQueryFragment path' = path' := by
            have appended := strip_append plain []
            rw [List.append_nil] at appended
            exact appended.trans (List.append_nil path')
          unfold pathOf
          rw [strip_tail fits plain, noEnd, alone]
        rw [redactRest_path path fits covered.1, bare]
        rfl
    | none =>
        have bare : kind.tailed = false := by
          rw [path] at covered
          exact covered.2.resolve_left Bool.false_ne_true
        rw [redactRest_bare path fits covered.1 bare, List.append_nil,
          redactRest_plain url.host_noSlash, hostOf_plain url.host_noAt]
        have kept : keep url.host = url.host := by
          unfold keep
          rw [splitOnce_char_none url.host_noSlash]
        rw [kept, ite_self]
        exact congrArg _ (List.append_nil url.host).symm
  · rw [if_neg known] at covered ⊢
    rw [if_neg known]
    have plain : ¬ Cut ([] ++ url.scheme ++ schemeSeparator) := by
      rw [cut_within]
      rintro ⟨c, member, _⟩
      cases member
    rw [strip_append plain, strip_rest fits covered, noEnd]
    rfl

/-- Two URLs that differ in their secrets alone give the same text, just when
their kinds are covered. -/
theorem redact_text_iff (url : Url) (first second : Kind) :
    (forall secrets secrets', first.Fits secrets -> second.Fits secrets' ->
      redactUrlTokens (url.text secrets) = redactUrlTokens (url.text secrets')) <->
    url.Covered first ∧ url.Covered second := by
  constructor
  · intro same
    have fitsFirst : first.Fits (probe first 'a') := probe_fits first (by decide)
    have fitsSecond : second.Fits (probe second 'a') := probe_fits second (by decide)
    rw [← coveredIn_nil, ← coveredIn_nil, ← coveredIn_iff url [] [] first,
      ← coveredIn_iff url [] [] second]
    constructor
    · intro secrets secrets' fits fits'
      exact (same _ _ fits fitsSecond).trans (same _ _ fits' fitsSecond).symm
    · intro secrets secrets' fits fits'
      exact (same _ _ fitsFirst fits).symm.trans (same _ _ fitsFirst fits')
  · rintro ⟨coveredFirst, coveredSecond⟩ secrets secrets' fits fits'
    rw [redact_text fits coveredFirst, redact_text fits' coveredSecond]

end Url

/-! ## Messages -/

/-- A URL in a message, with the text before it. -/
structure Embedded where
  lead : List Char
  url : Url
  kind : Kind

/-- The secrets of the URLs of a message are of these kinds. -/
def FitAll : List Embedded -> List Secrets -> Prop
  | [], [] => True
  | part :: parts, secrets :: rest => part.kind.Fits secrets ∧ FitAll parts rest
  | _, _ => False

/-- A message of several URLs and the text behind the last one. -/
def message : List Embedded -> List Secrets -> List Char -> List Char
  | part :: parts, secrets :: rest, last =>
      part.url.within part.lead secrets (message parts rest last)
  | _, _, last => last

/-- Every URL is covered behind what stands before it, whatever the secrets
there. -/
def CoveredAll (before : List Char) : List Embedded -> Prop
  | [] => True
  | part :: parts =>
      part.url.CoveredIn (before ++ part.lead) part.kind ∧
        forall secrets, part.kind.Fits secrets ->
          CoveredAll (part.url.within (before ++ part.lead) secrets []) parts

namespace Url

theorem within_append (url : Url) (before lead : List Char) (secrets : Secrets)
    (after : List Char) :
    before ++ url.within lead secrets after = url.within (before ++ lead) secrets after := by
  unfold within
  simp only [List.append_assoc]

theorem within_split (url : Url) (before : List Char) (secrets : Secrets) (after : List Char) :
    url.within before secrets after = url.within before secrets [] ++ after := by
  unfold within rest
  simp only [List.append_assoc, List.append_nil]

end Url

/-- The probes of the URLs of a message. -/
def probes (c : Char) (parts : List Embedded) : List Secrets :=
  parts.map fun part => Url.probe part.kind c

theorem probes_fit {c : Char} (letter : Url.Letter c) (parts : List Embedded) :
    FitAll parts (probes c parts) := by
  induction parts with
  | nil => trivial
  | cons part parts ih => exact ⟨Url.probe_fits part.kind letter, ih⟩

theorem message_cons (before : List Char) (part : Embedded) (parts : List Embedded)
    (secrets : Secrets) (rest : List Secrets) (last : List Char) :
    before ++ message (part :: parts) (secrets :: rest) last =
      part.url.within (before ++ part.lead) secrets (message parts rest last) :=
  part.url.within_append before part.lead secrets _

theorem redact_message_iff (parts : List Embedded) (before last : List Char) :
    (forall first second, FitAll parts first -> FitAll parts second ->
      redactUrlTokens (before ++ message parts first last) =
        redactUrlTokens (before ++ message parts second last)) <->
    CoveredAll before parts := by
  induction parts generalizing before with
  | nil =>
      refine ⟨fun _ => trivial, fun _ first second fitFirst fitSecond => ?_⟩
      cases first with
      | cons _ _ => cases fitFirst
      | nil =>
          cases second with
          | cons _ _ => cases fitSecond
          | nil => rfl
  | cons part parts ih =>
      constructor
      · intro same
        constructor
        · have fitRest := probes_fit (c := 'a') (by decide) parts
          rw [← Url.coveredIn_iff part.url _ (message parts (probes 'a' parts) last)]
          intro secrets secrets' fits fits'
          have both := same (secrets :: probes 'a' parts) (secrets' :: probes 'a' parts)
            ⟨fits, fitRest⟩ ⟨fits', fitRest⟩
          rw [message_cons, message_cons] at both
          exact both
        · intro secrets fits
          rw [← ih]
          intro first second fitFirst fitSecond
          have both := same (secrets :: first) (secrets :: second)
            ⟨fits, fitFirst⟩ ⟨fits, fitSecond⟩
          rw [message_cons, message_cons, Url.within_split,
            Url.within_split _ _ _ (message parts second last)] at both
          exact both
      · rintro ⟨coveredFirst, coveredRest⟩ first second fitFirst fitSecond
        cases first with
        | nil => cases fitFirst
        | cons secrets first =>
            cases second with
            | nil => cases fitSecond
            | cons secrets' second =>
                rw [message_cons, message_cons]
                -- first the URLs behind this one, with its secrets as they are
                have behind := (ih _).mpr (coveredRest secrets fitFirst.1) first second
                  fitFirst.2 fitSecond.2
                rw [← Url.within_split, ← Url.within_split] at behind
                have here := (Url.coveredIn_iff part.url _ (message parts second last)
                  part.kind).mpr coveredFirst secrets secrets' fitFirst.1 fitSecond.1
                exact behind.trans here

/-! ## Errors -/

/-- The errors that carry a message. -/
inductive Carrier where
  | invalidArgument
  | overflow
  | buffer
  | media
  | sdk
  | runtime
  | conflict
  | connector (protocol operation : String) (retryable : Bool) (endpointClass : EndpointClass)
      (status : Option String)

def Carrier.error (carrier : Carrier) (text : String) : Error :=
  match carrier with
  | .invalidArgument => .invalidArgument text
  | .overflow => .overflow text
  | .buffer => .buffer text
  | .media => .media text
  | .sdk => .sdk text
  | .runtime => .runtime text
  | .conflict => .conflict text
  | .connector protocol operation retryable endpointClass status =>
      .connector ⟨protocol, operation, retryable, endpointClass, status, text⟩

/-- A kind without any secrets. -/
def Kind.none : Kind := ⟨.absent, false, false⟩

/-- Only the message of a connector is redacted. -/
def Carrier.Covered (carrier : Carrier) (parts : List Embedded) : Prop :=
  match carrier with
  | .connector _ _ _ _ _ => CoveredAll [] parts
  | _ => forall part, part ∈ parts -> part.kind = Kind.none

theorem Kind.none_fits {secrets : Secrets} (fits : Kind.none.Fits secrets) :
    secrets = ⟨Option.none, Option.none, Option.none⟩ := by
  rcases secrets with ⟨userinfo, query, fragment⟩
  have user : userinfo = Option.none := fits.userinfo
  have noQuery : query = Option.none := by simpa [Kind.none] using fits.query
  have noFragment : fragment = Option.none := by simpa [Kind.none] using fits.fragment
  rw [user, noQuery, noFragment]

/-- Without redaction the probe shows in every part. -/
theorem probe_shows {kind : Kind} (url : Url) (lead first second : List Char)
    (same : url.within lead (Url.probe kind 'a') first =
      url.within lead (Url.probe kind 'b') second) : kind = Kind.none ∧ first = second := by
  rcases kind with ⟨userinfo, query, fragment⟩
  unfold Url.within at same
  have rest := List.append_cancel_left same
  cases userinfo <;> cases query <;> cases fragment <;>
    simp_all [Url.rest, Url.probe, Url.probeUser, userPart, Secrets.tail, led, Kind.none]

theorem message_iff (parts : List Embedded) (last : List Char) :
    (forall first second, FitAll parts first -> FitAll parts second ->
      message parts first last = message parts second last) <->
    forall part, part ∈ parts -> part.kind = Kind.none := by
  constructor
  · intro same
    have shown := same _ _ (probes_fit (c := 'a') (by decide) parts)
      (probes_fit (c := 'b') (by decide) parts)
    clear same
    induction parts with
    | nil => exact fun part member => nomatch member
    | cons part parts ih =>
        have both := probe_shows part.url part.lead _ _ shown
        intro other member
        rcases List.mem_cons.mp member with rfl | member
        · exact both.1
        · exact ih both.2 other member
  · intro noSecrets first second fitFirst fitSecond
    have only (secrets : List Secrets) (fit : FitAll parts secrets) :
        secrets = parts.map fun _ => ⟨Option.none, Option.none, Option.none⟩ := by
      clear fitFirst fitSecond
      induction parts generalizing secrets with
      | nil =>
          cases secrets with
          | nil => rfl
          | cons _ _ => cases fit
      | cons part parts ih =>
          cases secrets with
          | nil => cases fit
          | cons head rest =>
              have fitHead := fit.1
              rw [noSecrets part List.mem_cons_self] at fitHead
              rw [Kind.none_fits fitHead, ih (fun other member =>
                noSecrets other (List.mem_cons_of_mem part member)) rest fit.2]
              rfl
    rw [only first fitFirst, only second fitSecond]

theorem append_ofList_inj (front : String) (first second : List Char) :
    front ++ String.ofList first = front ++ String.ofList second <-> first = second := by
  constructor
  · intro same
    have lists := congrArg String.toList same
    rw [String.toList_append, String.toList_append] at lists
    have ends := List.append_cancel_left lists
    rwa [String.toList_ofList, String.toList_ofList] at ends
  · intro same
    rw [same]

theorem append_back_inj (first second back : String) :
    first ++ back = second ++ back <-> first = second := by
  constructor
  · intro same
    have lists := congrArg String.toList same
    rw [String.toList_append, String.toList_append] at lists
    exact String.ext (List.append_cancel_right lists)
  · intro same
    rw [same]

/-- What the log shows of an error tells two messages apart where the message
is shown as it is; that of a connector where the redacted messages differ. -/
theorem redacted_inj (carrier : Carrier) (first second : List Char) :
    (carrier.error (String.ofList first)).redacted =
        (carrier.error (String.ofList second)).redacted <->
      match carrier with
      | .connector _ _ _ _ _ => redactUrlTokens first = redactUrlTokens second
      | _ => first = second := by
  cases carrier with
  | connector protocol operation retryable endpointClass status =>
      dsimp only [Carrier.error, Error.redacted, redactUrl]
      rw [String.toList_ofList, String.toList_ofList, append_back_inj, append_back_inj,
        append_back_inj]
      exact append_ofList_inj _ _ _
  | _ => exact append_ofList_inj _ _ _

theorem redacted_message_iff (carrier : Carrier) (parts : List Embedded) (last : List Char) :
    (forall first second, FitAll parts first -> FitAll parts second ->
      (carrier.error (String.ofList (message parts first last))).redacted =
        (carrier.error (String.ofList (message parts second last))).redacted) <->
    carrier.Covered parts := by
  simp only [redacted_inj]
  cases carrier with
  | connector protocol operation retryable endpointClass status =>
      exact redact_message_iff parts [] last
  | _ => exact message_iff parts last

end Stream
end DyunGu
