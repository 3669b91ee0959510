import BearerCache.Proofs.FormEncoding
import BearerCache.Proofs.HostText
import BearerCache.Settings.Generator
import Mathlib.Data.List.Basic
import Mathlib.Data.List.TakeWhile

/-! # Addresses that are reached by HTTP

An address with the scheme `http` or `https` is read as a start, which has a host, and a path of
segments.  A name that is read relative to such an address takes the place of the last segment of
its path, so after a slash at the end it is added to the path.

## Key results

- `afterSlashes_eq_ok`: what is read after two slashes
- `scheme_ofScheme`: an address has the scheme that was read
- `IsName.join`: what a name, such as an endpoint, is relative to a base address
-/

namespace BearerCache.Url

/-! ## The schemes of HTTP -/

/-- The schemes of HTTP are special. -/
theorem isSpecial_of_http {scheme : String} (h : scheme = "http" ∨ scheme = "https") :
    isSpecial scheme := by
  rcases h with rfl | rfl <;> decide

/-- The schemes of HTTP know no drives. -/
theorem ne_file_of_http {scheme : String} (h : scheme = "http" ∨ scheme = "https") :
    scheme ≠ "file" := by
  rcases h with rfl | rfl <;> decide

theorem scheme_withSegments (url : Url) (list : List String) :
    (url.withSegments list).scheme = url.scheme := by
  unfold withSegments
  split <;> rfl

theorem scheme_withPath (url : Url) (list : List String) (cs : List Char) :
    (url.withPath list cs).scheme = url.scheme :=
  scheme_withSegments url _

/-- Where no drives are known, a path is what its segments lead to. -/
theorem withPath_eq {url : Url} (h : url.scheme ≠ "file") (list : List String) (cs : List Char) :
    url.withPath list cs =
      { url with
        path := .segments (segmentsFrom url.scheme list (cs.takeWhile (!endsPath ·)))
      }.withQueryAndFragment (cs.dropWhile (!endsPath ·)) := by
  rw [withPath, withSegments, if_neg h]

/-! ## Addresses that have been read -/

/-- An address of which all has been read that is before its path. -/
structure IsStart (scheme : String) (url : Url) : Prop where
  scheme : url.scheme = scheme
  user : ∃ text, credentials text = (url.username, url.password)
  host : ∃ text host, hostOf url.scheme text = .ok host ∧ url.host = some host
  port : ∃ text, port? url.scheme text = .ok url.port

/-- After two slashes come a host and, under a special scheme, a path. -/
theorem afterSlashes_eq_ok {scheme : String} {cs : List Char} {url : Url}
    (h : afterSlashes scheme cs = .ok url) :
    ∃ base : Url, IsStart scheme base ∧
      ((∃ more, url = base.withPath [] more) ∨
        isSpecial scheme = false ∧
          (url = base ∨ ∃ more, url = base.withQueryAndFragment more)) := by
  simp only [afterSlashes, bind, Except.bind, pure, Except.pure, throw, throwThe,
    MonadExceptOf.throw] at h
  split at h
  next => cases h
  split at h
  next => cases h
  next host hhost =>
  split at h
  next => cases h
  split at h
  next => cases h
  next port hport =>
  -- In all cases that are left, the user, the host and the port have been read.
  have hstart (user : List Char) : IsStart scheme ⟨scheme, (credentials user).1,
      (credentials user).2, some host, port, .segments [], none, none⟩ :=
    ⟨rfl, ⟨user, rfl⟩, ⟨_, host, hhost, rfl⟩, _, hport⟩
  split at h
  next => cases h
  split at h
  next =>
    split at h
    next =>
      cases h
      exact ⟨_, hstart _, .inl ⟨_, rfl⟩⟩
    next hspecial =>
      cases h
      exact ⟨_, hstart _, .inr ⟨Bool.eq_false_iff.mpr hspecial, .inl rfl⟩⟩
  next c more _ =>
    split at h
    next =>
      cases h
      exact ⟨_, hstart _, .inl ⟨_, rfl⟩⟩
    split at h
    next =>
      cases h
      exact ⟨_, hstart _, .inl ⟨_, rfl⟩⟩
    next hplain =>
      cases h
      have hspecial := (Bool.or_eq_false_iff.mp (Bool.eq_false_iff.mpr hplain)).1
      exact ⟨_, hstart _, .inr ⟨hspecial, .inr ⟨_, rfl⟩⟩⟩

theorem scheme_afterSlashes {scheme : String} {cs : List Char} {url : Url}
    (h : afterSlashes scheme cs = .ok url) : url.scheme = scheme := by
  obtain ⟨base, hstart, ⟨more, rfl⟩ | ⟨-, rfl | ⟨more, rfl⟩⟩⟩ := afterSlashes_eq_ok h
  · rw [scheme_withPath, hstart.scheme]
  · exact hstart.scheme
  · exact hstart.scheme

theorem scheme_fileAddress {cs : List Char} {url : Url} (h : fileAddress cs = .ok url) :
    url.scheme = "file" := by
  simp only [fileAddress, bind, Except.bind, pure, Except.pure] at h
  split at h
  -- Whether the path starts with a drive, with a slash or with neither, the start of the address is
  -- one of a file.
  next =>
    cases h
    exact scheme_withPath _ _ _
  split at h
  next =>
    cases h
    exact scheme_withPath _ _ _
  split at h
  next => cases h
  next =>
    cases h
    exact scheme_withPath _ _ _

/-- What is relative to an address has its scheme. -/
theorem scheme_relativeTo {base url : Url} {cs : List Char} (h : relativeTo base cs = .ok url) :
    url.scheme = base.scheme := by
  unfold relativeTo at h
  dsimp only at h
  split at h
  -- The empty text, a query and a fragment keep the base and what is before its path.
  next =>
    cases h
    rfl
  next =>
    cases h
    rfl
  next =>
    cases h
    rfl
  next =>
    split at h
    -- After two slashes a new host is read, but under the scheme of the base.
    next => split at h <;> exact scheme_afterSlashes h
    next =>
      split at h <;> cases h <;> exact scheme_withPath _ _ _

/-- The scheme of an address is the one that was read. -/
theorem scheme_ofScheme {base : Option Url} {scheme : String} {cs : List Char} {url : Url}
    (h : ofScheme base scheme cs = .ok url) : url.scheme = scheme := by
  unfold ofScheme at h
  dsimp only at h
  split at h
  next hfile => rw [scheme_fileAddress h, hfile]
  split at h
  next =>
    split at h
    next base hbase =>
      split at h
      next =>
        -- The base counts only if it has the scheme that was read.
        rw [scheme_relativeTo h]
        exact of_decide_eq_true (Option.filter_eq_some_iff.mp hbase).2
      next => exact scheme_afterSlashes h
    next => exact scheme_afterSlashes h
  next =>
    split at h
    next => exact scheme_afterSlashes h
    next =>
      cases h
      exact scheme_withPath _ _ _
    next =>
      cases h
      rfl

/-! ## Names relative to a base -/

/-- A text that is read as one segment of a path, wherever it stands. -/
structure IsName (text : String) : Prop where
  significant : significant text.toList = text.toList
  scheme : scheme? text.toList = none
  plain : ∀ c ∈ text.toList, isSlash true c = false ∧ endsPath c = false
  points : plainPoints text.toList = text.toList
  long : 2 < text.toList.length
  written : escape .path text.toList = text

/-- The endpoints of the token generator are such texts. -/
theorem isName_of_endpoint? {kind : TokenKind} {endpoint : String}
    (h : kind.endpoint? = some endpoint) : IsName endpoint := by
  have hall : endpoint.toList.all fun c => !isSlash true c && !endsPath c := by
    cases kind <;> cases h <;> decide
  have hplain : ∀ c ∈ endpoint.toList, isSlash true c = false ∧ endsPath c = false := by
    simpa using hall
  cases kind <;> cases h <;> exact ⟨by decide, by decide, hplain, by decide, by decide, by decide⟩

/-- A name is added to other segments as it is. -/
theorem IsName.segmentsFrom {text : String} (h : IsName text) {scheme : String}
    (hscheme : scheme = "http" ∨ scheme = "https") (list : List String) :
    segmentsFrom scheme list text.toList = list ++ [text] := by
  have hspecial := isSpecial_of_http hscheme
  have hfile : (scheme == "file") = false := beq_false_of_ne (ne_file_of_http hscheme)
  have hlong := h.long
  rw [Url.segmentsFrom, hspecial, hfile, List.splitOnP_eq_singleton fun c hc => (h.plain c hc).1]
  simp only [addSegments, addSegment, h.points]
  -- A segment of points would be shorter than a name may be.
  split
  next hpoints => rw [hpoints] at hlong; exact absurd hlong (by decide)
  next hpoint => rw [hpoint] at hlong; exact absurd hlong (by decide)
  next => rw [Bool.false_and, Bool.false_and, if_neg Bool.false_ne_true, h.written]

/-- A name that is relative to an address takes the place of the last segment of its path. -/
theorem IsName.join {text : String} (h : IsName text) {base : Url}
    (hscheme : base.scheme = "http" ∨ base.scheme = "https") {list : List String}
    (hpath : base.path = .segments list) :
    base.join text = .ok { base with
      path := .segments (list.dropLast ++ [text]), query := none, fragment := none } := by
  have hflat : base.isFlat = false := by rw [isFlat, hpath]
  -- A name has none of the characters that end a path, so all of it is read as a path.
  have hpathEnd : text.toList.takeWhile (!endsPath ·) = text.toList ∧
      text.toList.dropWhile (!endsPath ·) = [] := by
    have hall : ∀ c ∈ text.toList, (!endsPath c) = true := fun c hc => by rw [(h.plain c hc).2]; rfl
    exact ⟨List.takeWhile_eq_self_iff.mpr hall, List.dropWhile_eq_nil_iff.mpr hall⟩
  have hrelative : relativeTo base text.toList = .ok (base.withPath list.dropLast text.toList) := by
    have hlong := h.long
    unfold relativeTo
    rw [hpath]
    dsimp only
    split
    -- It is neither empty nor does it begin with a character that means something else than a
    -- segment.
    next hnil => rw [hnil] at hlong; exact absurd hlong (by decide)
    next hquery =>
      exact absurd (h.plain '?' (by rw [hquery]; exact List.mem_cons_self)).2 (by decide)
    next hfragment =>
      exact absurd (h.plain '#' (by rw [hfragment]; exact List.mem_cons_self)).2 (by decide)
    next c rest _ _ hcons =>
      have hslash : isSlash true c = false :=
        (h.plain c (by rw [hcons]; exact List.mem_cons_self)).1
      have hnone : text.toList.takeWhile (isSlash true) = [] := by
        rw [hcons, List.takeWhile_cons_of_neg (by rw [hslash]; exact Bool.false_ne_true)]
      rw [hnone, hslash, if_neg (by decide), if_neg Bool.false_ne_true]
  have hurl : base.withPath list.dropLast text.toList = { base with
      path := .segments (list.dropLast ++ [text]), query := none, fragment := none } := by
    rw [withPath_eq (ne_file_of_http hscheme), hpathEnd.1, hpathEnd.2, h.segmentsFrom hscheme]
    rfl
  unfold Url.join parseBeside
  dsimp only
  rw [h.significant, h.scheme]
  dsimp only
  rw [hflat, if_neg Bool.false_ne_true, hrelative, hurl]

/-- With an empty segment at its end, the path of an address is a directory. -/
theorem exists_path_asDirectory {url : Url} {list : List String} (hpath : url.path = .segments list) :
    ∃ front, url.asDirectory.path = .segments (front ++ [""]) := by
  unfold Url.asDirectory
  rw [hpath]
  dsimp only
  split
  next hlast =>
    refine ⟨list.dropLast, ?_⟩
    rw [hpath, List.dropLast_append_getLast? "" hlast]
  next => exact ⟨list, rfl⟩

end BearerCache.Url
