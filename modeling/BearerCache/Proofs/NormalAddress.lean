import BearerCache.Proofs.EscapedText
import BearerCache.Proofs.TextParts

/-! # Addresses in their written form

An address that has been read is in its written form: its parts are written with escapes where they
need them, its segments are none that lead elsewhere, and a port that its scheme has anyway is left
out.  So it is also with an address that is read relative to such an address.

## Key results

- `isNormal_of_isRead`: addresses of HTTP that have been read are in their written form
- `IsProper`: what holds of all addresses that have been read, and of others too
-/

namespace BearerCache.Url

/-! ## Segments -/

/-- A segment in its written form, with no meaning of its own. -/
structure IsSegment (segment : String) : Prop where
  leaves : ∀ c ∈ segment.toList, EscapeSet.path.leaves c
  plain : ∀ c ∈ segment.toList, isSlash true c = false
  points : ¬(plainPoints segment.toList = ['.'] ∨ plainPoints segment.toList = ['.', '.'])

theorem isSegment_empty : IsSegment "" := ⟨by simp, by simp, by decide⟩

/-- A segment has no question mark in it, which would end the path. -/
theorem IsSegment.not_mem {segment : String} (h : IsSegment segment) : '?' ∉ segment.toList :=
  fun hmem => absurd (h.leaves '?' hmem) (by decide)

/-- A text without slashes is escaped to a segment, if it has no meaning. -/
theorem isSegment_escape {segment : List Char} (hplain : ∀ c ∈ segment, isSlash true c = false)
    (hpoints : ¬(plainPoints segment = ['.'] ∨ plainPoints segment = ['.', '.'])) :
    IsSegment (escape .path segment) := by
  have hmark : ∀ c ∈ "%0123456789ABCDEF".toList, isSlash true c = false :=
    List.all_iff_forall_prop.mp (by decide)
  refine ⟨fun c hc => (mem_escape EscapeSet.isUsual_path hc).2, fun c hc => ?_,
    plainPoints_escape hpoints⟩
  rcases (mem_escape EscapeSet.isUsual_path hc).1 with hc | hc
  · exact hmark c hc
  · exact hplain c hc

/-- What a segment does to others. -/
theorem addSegment_cases (list : List String) (segment : List Char) (last : Bool) :
    (∃ front, front ⊆ list ∧
        addSegment false list segment last = if last then front ++ [""] else front) ∨
      ¬(plainPoints segment = ['.'] ∨ plainPoints segment = ['.', '.']) ∧
        addSegment false list segment last = list ++ [escape .path segment] := by
  have hback : stepBack list ⊆ list := by
    unfold stepBack
    split
    · exact List.Subset.refl list
    · exact (List.dropLast_sublist list).subset
  unfold addSegment
  simp only [Bool.false_and, Bool.false_eq_true, if_false]
  -- Two points go back by a segment and one point is left out; everything else is put at the end.
  split
  next => exact .inl ⟨_, hback, rfl⟩
  next => exact .inl ⟨_, List.Subset.refl list, rfl⟩
  next htwo hone => exact .inr ⟨fun h => h.elim hone htwo, rfl⟩

/-- A segment in its written form is added as it is. -/
theorem IsSegment.addSegment {segment : String} (h : IsSegment segment) (list : List String)
    (last : Bool) : addSegment false list segment.toList last = list ++ [segment] := by
  have hpoints := h.points
  unfold Url.addSegment
  simp only [Bool.false_and, Bool.false_eq_true, if_false]
  split
  next heq => exact absurd (.inr heq) hpoints
  next heq => exact absurd (.inl heq) hpoints
  next => rw [escape_of_leaves h.leaves, String.ofList_toList]

theorem addSegments_of_isSegment (list : List String) {more : List String}
    (h : ∀ segment ∈ more, IsSegment segment) :
    addSegments false list (more.map String.toList) = list ++ more := by
  -- On the segments; only the last one says whether a slash stands at the end.
  induction more generalizing list with
  | nil => rw [List.map_nil, addSegments, List.append_nil]
  | cons segment rest ih =>
    obtain ⟨hsegment, hrest⟩ := List.forall_mem_cons.mp h
    cases rest with
    | nil => exact hsegment.addSegment list true
    | cons next rest =>
      rw [List.map_cons, List.map_cons, addSegments, hsegment.addSegment, ← List.map_cons,
        ih _ hrest, List.append_assoc, List.singleton_append]
      simp

/-- Segments that are added are in their written form. -/
theorem isSegment_of_mem_addSegment {list : List String} (hlist : ∀ s ∈ list, IsSegment s)
    {segment : List Char} (hplain : ∀ c ∈ segment, isSlash true c = false) (last : Bool) :
    ∀ s ∈ addSegment false list segment last, IsSegment s := by
  intro s hs
  -- Either no segment is added but the empty one, or one that is escaped.
  rcases addSegment_cases list segment last with ⟨front, hfront, heq⟩ | ⟨hpoints, heq⟩
  · rw [heq] at hs
    split at hs
    next =>
      rcases List.mem_append.mp hs with hs | hs
      · exact hlist s (hfront hs)
      · exact List.mem_singleton.mp hs ▸ isSegment_empty
    next => exact hlist s (hfront hs)
  · rw [heq] at hs
    rcases List.mem_append.mp hs with hs | hs
    · exact hlist s hs
    · exact List.mem_singleton.mp hs ▸ isSegment_escape hplain hpoints

theorem isSegment_of_mem_addSegments {list : List String} (hlist : ∀ s ∈ list, IsSegment s)
    {parts : List (List Char)} (hplain : ∀ part ∈ parts, ∀ c ∈ part, isSlash true c = false) :
    ∀ s ∈ addSegments false list parts, IsSegment s := by
  -- On the parts of the path, of which the last is added in its own way.
  induction parts generalizing list with
  | nil => exact hlist
  | cons part more ih =>
    obtain ⟨hpart, hmore⟩ := List.forall_mem_cons.mp hplain
    cases more with
    | nil => exact isSegment_of_mem_addSegment hlist hpart true
    | cons next more => exact ih (isSegment_of_mem_addSegment hlist hpart false) hmore

/-- The last part leaves a segment behind. -/
theorem addSegments_ne_nil (list : List String) {parts : List (List Char)} (h : parts ≠ []) :
    addSegments false list parts ≠ [] := by
  induction parts generalizing list with
  | nil => exact absurd rfl h
  | cons part more ih =>
    cases more with
    | nil =>
      rcases addSegment_cases list part true with ⟨front, -, heq⟩ | ⟨-, heq⟩ <;>
        simp [addSegments, heq]
    | cons next more => exact ih _ (List.cons_ne_nil next more)

/-! ## Addresses -/

/-- An address of HTTP in its written form up to its path. -/
structure HasNormalStart (url : Url) : Prop where
  scheme : url.scheme = "http" ∨ url.scheme = "https"
  username : ∀ c ∈ url.username.toList, EscapeSet.userInfo.leaves c
  password : ∀ password, url.password = some password →
    password ≠ "" ∧ ∀ c ∈ password.toList, EscapeSet.userInfo.leaves c
  host : ∃ host text, url.host = some host ∧ Host.ofText text = .ok host
  port : ∀ port, url.port = some port → port ≤ 65535 ∧ some port ≠ defaultPort? url.scheme

/-- An address of HTTP in its written form. -/
structure IsNormal (url : Url) : Prop extends HasNormalStart url where
  path : ∃ list, url.path = .segments list ∧ list ≠ [] ∧ ∀ segment ∈ list, IsSegment segment
  query : ∀ query, url.query = some query → ∀ c ∈ query.toList, EscapeSet.specialQuery.leaves c
  fragment : ∀ fragment, url.fragment = some fragment →
    ∀ c ∈ fragment.toList, EscapeSet.fragment.leaves c

/-- A text that is not empty is not escaped to the empty text. -/
theorem escape_ne_empty {set : EscapeSet} {cs : List Char} (h : cs ≠ []) : escape set cs ≠ "" := by
  obtain ⟨c, rest, rfl⟩ := List.exists_cons_of_ne_nil h
  obtain ⟨b, bs, hbytes⟩ := List.exists_cons_of_ne_nil (String.utf8EncodeChar_ne_nil (c := c))
  -- A byte that is escaped is three characters, and one that is left is one.
  have hbyte : escapeByte set b ≠ [] := by
    unfold escapeByte
    split <;> exact List.cons_ne_nil _ _
  intro hempty
  have hnil := congrArg String.toList hempty
  rw [escape, String.toList_ofList, Text.bytes_ofList, List.flatMap_cons, hbytes,
    List.cons_append, List.flatMap_cons] at hnil
  exact hbyte (List.append_eq_nil_iff.mp hnil).1

/-- A user name and a password that are read are in their written form. -/
theorem credentials_leaves {cs : List Char} {username : String} {password : Option String}
    (h : credentials cs = (username, password)) :
    (∀ c ∈ username.toList, EscapeSet.userInfo.leaves c) ∧
      ∀ word, password = some word →
        word ≠ "" ∧ ∀ c ∈ word.toList, EscapeSet.userInfo.leaves c := by
  -- What is escaped leaves only what its set lets through.
  have hleaves (cs : List Char) : ∀ c ∈ (escape .userInfo cs).toList, EscapeSet.userInfo.leaves c :=
    fun c hc => (mem_escape EscapeSet.isUsual_userInfo hc).2
  unfold credentials at h
  dsimp only at h
  split at h
  next secret _ =>
    split at h
    next =>
      cases h
      exact ⟨hleaves _, by simp⟩
    next hne =>
      cases h
      refine ⟨hleaves _, fun word hword => ?_⟩
      cases hword
      exact ⟨escape_ne_empty hne, hleaves _⟩
  next =>
    cases h
    exact ⟨hleaves _, by simp⟩

/-- A port that is read is not the one of the scheme, and is not too great. -/
theorem port?_bounds {scheme : String} {cs : List Char} {port : Nat}
    (h : port? scheme cs = .ok (some port)) :
    port ≤ 65535 ∧ some port ≠ defaultPort? scheme := by
  -- As long as the digits are read the number stays in the bounds.
  have hfold : ∀ (cs : List Char) (n m : Nat), n ≤ 65535 → cs.foldlM (fun n c =>
      if '0' ≤ c ∧ c ≤ '9' ∧ n * 10 + (c.toNat - 0x30) ≤ 65535 then
        some (n * 10 + (c.toNat - 0x30))
      else none) n = some m → m ≤ 65535 := by
    intro cs
    induction cs with
    | nil =>
      intro n m hn h
      cases h
      exact hn
    | cons c cs ih =>
      intro n m hn h
      rw [List.foldlM_cons, Option.bind_eq_bind, Option.bind_eq_some_iff] at h
      obtain ⟨next, hnext, h⟩ := h
      split at hnext
      next hdigit =>
        cases hnext
        exact ih _ _ hdigit.2.2 h
      next => cases hnext
  unfold port? at h
  split at h
  next => cases h
  next n hn =>
    split at h
    next => cases h
    next hother =>
      cases h
      exact ⟨hfold cs 0 port (by decide) hn, fun hsame => hother (.inr hsame)⟩

/-- What has been read of an address of HTTP is in its written form. -/
theorem IsStart.hasNormalStart {scheme : String} {url : Url} (h : IsStart scheme url)
    (hscheme : scheme = "http" ∨ scheme = "https") : url.HasNormalStart := by
  have hurl : url.scheme = "http" ∨ url.scheme = "https" := h.scheme ▸ hscheme
  obtain ⟨user, huser⟩ := h.user
  obtain ⟨text, host, hhost, hsome⟩ := h.host
  obtain ⟨digits, hport⟩ := h.port
  have hnames := credentials_leaves huser
  refine ⟨hurl, hnames.1, hnames.2, ?_, fun port heq => port?_bounds (heq ▸ hport)⟩
  rw [hostOf, if_pos (isSpecial_of_http hurl)] at hhost
  split at hhost
  next => cases hhost
  next => exact ⟨host, text, hsome, hhost⟩

section

variable {url : Url}

/-- An address in its written form gets a query and a fragment in theirs. -/
theorem IsNormal.withQueryAndFragment (h : url.IsNormal) (cs : List Char) :
    (url.withQueryAndFragment cs).IsNormal := by
  have hspecial := isSpecial_of_http h.scheme
  -- Scheme, host and path are as before; the query and the fragment are escaped.
  refine ⟨⟨h.scheme, h.username, h.password, h.host, h.port⟩, h.path, ?_, ?_⟩
  · intro query hquery c hc
    dsimp only [Url.withQueryAndFragment] at hquery
    rw [if_pos hspecial] at hquery
    split at hquery
    next =>
      cases hquery
      exact (mem_escape EscapeSet.isUsual_specialQuery hc).2
    next => cases hquery
  · intro fragment hfragment c hc
    dsimp only [Url.withQueryAndFragment] at hfragment
    split at hfragment
    next =>
      cases hfragment
      exact (mem_escape EscapeSet.isUsual_fragment hc).2
    next => cases hfragment

/-- A path that is read is in its written form. -/
theorem HasNormalStart.withPath (h : url.HasNormalStart) {list : List String}
    (hlist : ∀ segment ∈ list, IsSegment segment) (cs : List Char) :
    (url.withPath list cs).IsNormal := by
  have hspecial := isSpecial_of_http h.scheme
  have hfile : (url.scheme == "file") = false := beq_false_of_ne (ne_file_of_http h.scheme)
  rw [withPath_eq (ne_file_of_http h.scheme), segmentsFrom, hfile, hspecial]
  have hplain : ∀ part ∈ (cs.takeWhile (!endsPath ·)).splitOnP (isSlash true),
      ∀ c ∈ part, isSlash true c = false := fun part hpart c hc => Text.not_of_mem_splitOnP hpart hc
  -- The query and the fragment of the address itself are replaced.
  have hbare : IsNormal { url with
      path := .segments (addSegments false list
        ((cs.takeWhile (!endsPath ·)).splitOnP (isSlash true)))
      query := none
      fragment := none } :=
    ⟨⟨h.scheme, h.username, h.password, h.host, h.port⟩, ⟨_, rfl,
      addSegments_ne_nil list (List.splitOnP_ne_nil _ _),
      isSegment_of_mem_addSegments hlist hplain⟩,
      by simp, by simp⟩
  exact hbare.withQueryAndFragment _

end

/-- What is read after two slashes under the schemes of HTTP is in its written form. -/
theorem isNormal_of_afterSlashes {scheme : String} {cs : List Char} {url : Url}
    (hscheme : scheme = "http" ∨ scheme = "https") (h : afterSlashes scheme cs = .ok url) :
    url.IsNormal := by
  have hspecial := isSpecial_of_http hscheme
  obtain ⟨base, hstart, ⟨more, rfl⟩ | ⟨hnot, -⟩⟩ := afterSlashes_eq_ok h
  · exact (hstart.hasNormalStart hscheme).withPath (by simp) more
  · rw [hspecial] at hnot
    cases hnot

/-! ## Addresses that have been read -/

/-- An address that has been read from a text, by itself or relative to such an address. -/
inductive IsRead : Url → Prop where
  | parse {text : String} {url : Url} (h : parse text = .ok url) : IsRead url
  | join {base url : Url} {text : String} (hbase : IsRead base) (h : base.join text = .ok url) :
    IsRead url

/-- What is read relative to an address in its written form is so too. -/
theorem IsNormal.relativeTo {base url : Url} (h : base.IsNormal) {cs : List Char}
    (hread : relativeTo base cs = .ok url) : url.IsNormal := by
  obtain ⟨list, hpath, hne, hlist⟩ := h.path
  unfold Url.relativeTo at hread
  rw [hpath] at hread
  dsimp only at hread
  split at hread
  next =>
    -- The empty text stands for the base without its fragment.
    cases hread
    exact ⟨⟨h.scheme, h.username, h.password, h.host, h.port⟩, ⟨list, rfl, hne, hlist⟩, h.query,
      by simp⟩
  next =>
    cases hread
    exact h.withQueryAndFragment _
  next =>
    cases hread
    refine ⟨⟨h.scheme, h.username, h.password, h.host, h.port⟩, ⟨list, rfl, hne, hlist⟩, h.query,
      fun fragment hfragment c hc => ?_⟩
    cases hfragment
    exact (mem_escape EscapeSet.isUsual_fragment hc).2
  next =>
    -- After slashes comes a host or a whole path, else the last segment is replaced.
    split at hread
    next => split at hread <;> exact isNormal_of_afterSlashes h.scheme hread
    next =>
      split at hread
      next =>
        cases hread
        exact h.withPath (by simp) _
      next =>
        cases hread
        exact h.withPath (fun s hs => hlist s ((List.dropLast_sublist list).subset hs)) _

/-- What is read after the colon is in its written form, and so is what is read relative to a base
of that scheme. -/
theorem isNormal_of_ofScheme {base : Option Url} {scheme : String} {cs : List Char} {url : Url}
    (hread : ofScheme base scheme cs = .ok url) (hscheme : url.scheme = "http" ∨ url.scheme = "https")
    (hbase : ∀ other, base = some other → other.scheme = scheme → other.IsNormal) :
    url.IsNormal := by
  rw [scheme_ofScheme hread] at hscheme
  -- An address of HTTP is read beside a base of its own scheme or on its own.
  rw [ofScheme, if_neg (ne_file_of_http hscheme), if_pos (isSpecial_of_http hscheme)] at hread
  split at hread
  next other hother =>
    obtain ⟨hsome, hsame⟩ := Option.filter_eq_some_iff.mp hother
    split at hread
    next => exact (hbase other hsome (of_decide_eq_true hsame)).relativeTo hread
    next => exact isNormal_of_afterSlashes hscheme hread
  next => exact isNormal_of_afterSlashes hscheme hread

/-- An address of HTTP that has been read is in its written form. -/
theorem isNormal_of_isRead {url : Url} (h : IsRead url)
    (hscheme : url.scheme = "http" ∨ url.scheme = "https") : url.IsNormal := by
  -- On how the address came about, as an address that is joined is read beside another one.
  induction h with
  | parse h =>
    unfold Url.parse parseBeside at h
    dsimp only at h
    split at h
    next => exact isNormal_of_ofScheme h hscheme (by simp)
    next => cases h
  | @join base url text _ h ih =>
    unfold Url.join parseBeside at h
    dsimp only at h
    split at h
    next scheme rest _ =>
      -- The base counts only if it has the scheme of the text, and then that of the address.
      refine isNormal_of_ofScheme h hscheme fun other hother hsame => ?_
      cases hother
      exact ih (hsame ▸ scheme_ofScheme h ▸ hscheme)
    next =>
      split at h
      next hflat =>
        -- An address of HTTP has a path of segments, so it is no base of this kind.
        split at h
        next =>
          cases h
          obtain ⟨list, hpath, -⟩ := (ih hscheme).path
          rw [isFlat, hpath] at hflat
          cases hflat
        next => cases h
      next => exact (ih (scheme_relativeTo h ▸ hscheme)).relativeTo h

/-- An address that is in its written form if it is one of HTTP.  Nothing is asked of others. -/
def IsProper (url : Url) : Prop :=
  url.scheme = "http" ∨ url.scheme = "https" → url.IsNormal

theorem IsRead.isProper {url : Url} (h : url.IsRead) : url.IsProper :=
  isNormal_of_isRead h

/-- With an empty segment at its end an address stays in its written form. -/
theorem IsNormal.asDirectory {url : Url} (h : url.IsNormal) : url.asDirectory.IsNormal := by
  obtain ⟨list, hpath, -, hlist⟩ := h.path
  unfold Url.asDirectory
  rw [hpath]
  dsimp only
  -- The empty segment that is added is one that may stand in a path.
  split
  next => exact h
  next =>
    have hmore : ∀ segment ∈ list ++ [""], IsSegment segment := fun segment hmem =>
      (List.mem_append.mp hmem).elim (hlist segment) fun hlast =>
        List.mem_singleton.mp hlast ▸ isSegment_empty
    exact ⟨⟨h.scheme, h.username, h.password, h.host, h.port⟩, ⟨_, rfl, by simp, hmore⟩, h.query,
      h.fragment⟩

end BearerCache.Url
