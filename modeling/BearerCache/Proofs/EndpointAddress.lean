import BearerCache.Proofs.AcceptedSettings
import BearerCache.Proofs.AddressText
import BearerCache.Proofs.TextParts

/-! # Addresses of endpoints

The base address of the token generator may be any address of HTTP.  Settings keep it as it is, but
for a slash that is set at the end of its path unless one is there.  The name of an endpoint, which
is read relative to that address, is then added to the path: no segment is lost, and none is there
twice.

## Main definitions

- `Url.setPath`: the address with the path that a text leads to
- `Url.endsInSlash`: whether the path of an address ends in a slash

## Key results

- `Url.IsNormal.asDirectory_eq`: the slash at the end is set by reading the whole path again
- `GeneratorDraft.build_of_http`: what is built of settings with an address of HTTP
- `GeneratorDraft.endpoints_keep_path`: the addresses of the endpoints
-/

namespace BearerCache

namespace Url

/-! ## Paths and slashes -/

/-- The address with the path that a text leads to.  A question mark or a number sign in the text
does not end the path. -/
def setPath (url : Url) (text : String) : Url :=
  url.withSegments (segmentsFrom url.scheme [] (dropSlash text.toList))

/-- Whether the path of an address ends in a slash. -/
def endsInSlash (url : Url) : Bool :=
  url.path.write.toList.getLast? == some '/'

/-- The last segment stands behind the last slash that is written. -/
theorem Path.write_append_singleton (front : List String) (last : String) :
    (Path.segments (front ++ [last])).write = (Path.segments front).write ++ "/" ++ last := by
  simp only [Path.write, List.map_append, List.map_cons, List.map_nil, String.join_append,
    String.join_cons, String.join_nil, String.append_empty, String.append_assoc]

/-- The path of an address in its written form ends in a slash if its last segment is empty. -/
theorem IsNormal.endsInSlash_iff {url : Url} (h : url.IsNormal) {front : List String}
    {last : String} (hpath : url.path = .segments (front ++ [last])) :
    url.endsInSlash ↔ last = "" := by
  obtain ⟨segments, hsegments, -, hplain⟩ := h.path
  obtain rfl := Path.segments.inj (hpath.symm.trans hsegments)
  have hlast := (hplain last (by simp)).plain
  -- The written path is what stands before the last segment, a slash, and that segment.
  have hslash : "/".toList = ['/'] := by decide
  have hwritten : url.path.write.toList =
      (Path.segments front).write.toList ++ '/' :: last.toList := by
    rw [hpath, Path.write_append_singleton, String.toList_append, String.toList_append, hslash,
      List.append_assoc, List.singleton_append]
  rw [endsInSlash, beq_iff_eq, hwritten]
  constructor
  · intro hend
    by_contra hne
    -- The last character is one of the last segment, which has no slash in it.
    have hchars : last.toList ≠ [] := fun hnil => hne (String.toList_eq_nil_iff.mp hnil)
    rw [List.getLast?_append_cons, List.getLast?_cons_of_ne_nil hchars] at hend
    exact absurd (hlast '/' (List.mem_of_getLast? hend)) (by decide)
  · rintro rfl
    simp

/-- A path whose text is read again is the same, and so it is with a slash behind it. -/
theorem IsNormal.setPath_write {url : Url} (h : url.IsNormal) {list : List String}
    (hne : list ≠ []) (hlist : ∀ segment ∈ list, IsSegment segment) :
    url.setPath (Path.segments list).write = { url with path := .segments list } := by
  have hfile := ne_file_of_http h.scheme
  -- No segment has a slash in it, so the text falls apart into the same segments again.
  have hslashes : ∀ part ∈ list.map String.toList, ∀ c ∈ part, isSlash true c = false := by
    intro part hpart
    obtain ⟨segment, hsegment, rfl⟩ := List.mem_map.mp hpart
    exact (hlist segment hsegment).plain
  have hdrop : dropSlash (Path.segments list).write.toList =
      ['/'].intercalate (list.map String.toList) := by
    rw [toList_write_segments hne, dropSlash, if_pos (by decide)]
  rw [setPath, hdrop, segmentsFrom, isSpecial_of_http h.scheme, beq_false_of_ne hfile,
    Text.splitOnP_intercalate (by decide) (by simpa using hne) hslashes,
    addSegments_of_isSegment [] hlist, List.nil_append, withSegments, if_neg hfile]

/-- With another path an address stays in its written form. -/
theorem IsNormal.setPath {url : Url} (h : url.IsNormal) (text : String) :
    (url.setPath text).IsNormal := by
  have hfile := ne_file_of_http h.scheme
  rw [Url.setPath, segmentsFrom, isSpecial_of_http h.scheme, beq_false_of_ne hfile, withSegments,
    if_neg hfile]
  refine ⟨⟨h.scheme, h.username, h.password, h.host, h.port⟩, ⟨_, rfl,
    addSegments_ne_nil [] (List.splitOnP_ne_nil _ _), isSegment_of_mem_addSegments (by simp) ?_⟩,
    h.query, h.fragment⟩
  exact fun part hpart c hc => Text.not_of_mem_splitOnP hpart hc

/-- An empty segment is set behind the last one unless that is empty. -/
theorem asDirectory_of_path {url : Url} {front : List String} {last : String}
    (hpath : url.path = .segments (front ++ [last])) :
    url.asDirectory =
      if last = "" then url else { url with path := .segments (front ++ [last] ++ [""]) } := by
  unfold asDirectory
  rw [hpath]
  dsimp only
  rw [List.getLast?_concat]
  simp only [Option.some.injEq]

/-- The slash at the end of a path is set by reading the path again with a slash behind it. -/
theorem IsNormal.asDirectory_eq {url : Url} (h : url.IsNormal) :
    url.asDirectory = if url.endsInSlash then url else url.setPath (url.path.write ++ "/") := by
  -- The path is normal, so it ends in some segment, which may be empty.
  obtain ⟨list, hpath, hne, hlist⟩ := h.path
  obtain ⟨front, last, rfl⟩ := (List.eq_nil_or_concat' list).resolve_left hne
  have hends := h.endsInSlash_iff hpath
  have hmore : ∀ segment ∈ front ++ [last] ++ [""], IsSegment segment :=
    List.forall_mem_append.mpr ⟨hlist, by simpa using isSegment_empty⟩
  have hwritten : url.path.write ++ "/" = (Path.segments (front ++ [last] ++ [""])).write := by
    rw [hpath, Path.write_append_singleton (front ++ [last]), String.append_empty]
  rw [asDirectory_of_path hpath, hwritten, h.setPath_write (by simp) hmore]
  simp only [hends]

/-- With a slash at its end, an address differs from what it was in that slash alone. -/
theorem IsNormal.asDirectory_path {url : Url} (h : url.IsNormal) :
    url.asDirectory = { url with path := url.asDirectory.path } ∧
      url.asDirectory.path.write =
        if url.endsInSlash then url.path.write else url.path.write ++ "/" := by
  obtain ⟨list, hpath, hne, -⟩ := h.path
  obtain ⟨front, last, rfl⟩ := (List.eq_nil_or_concat' list).resolve_left hne
  -- A path that ends in a slash is kept; to any other one an empty segment is added.
  have hends := h.endsInSlash_iff hpath
  rw [asDirectory_of_path hpath]
  by_cases hlast : last = ""
  · rw [if_pos hlast, if_pos (hends.mpr hlast)]
    exact ⟨rfl, rfl⟩
  · rw [if_neg hlast, if_neg (fun heq => hlast (hends.mp heq)), hpath]
    refine ⟨rfl, ?_⟩
    rw [Path.write_append_singleton (front ++ [last]), String.append_empty]

/-- Where there is a slash at the end, none is set. -/
theorem asDirectory_asDirectory (url : Url) : url.asDirectory.asDirectory = url.asDirectory := by
  unfold Url.asDirectory
  cases hpath : url.path with
  | flat text => simp only [hpath]
  | segments list =>
    by_cases hlast : list.getLast? = some "" <;> simp [hpath, hlast]

end Url

/-! ## Settings and their endpoints -/

/-- An address of HTTP that has been read is accepted, with positive times. -/
theorem GeneratorDraft.build_of_http {draft : GeneratorDraft} {url : Url}
    (hbase : draft.baseUrl = some url) (hnormal : url.IsNormal)
    (httl : 0 < draft.defaultTtl.nanoseconds) (htimeout : 0 < draft.requestTimeout.nanoseconds) :
    draft.build = .ok ⟨url.asDirectory, draft.username, draft.password, draft.defaultEnv,
      draft.defaultTtl, draft.requestTimeout⟩ := by
  obtain ⟨list, hpath, -, -⟩ := hnormal.path
  -- The checks of `build` are passed one by one; none of them changes the address.
  have hflat : url.isFlat = false := by rw [Url.isFlat, hpath]
  have hurl (field usual : String) : Settings.httpUrl field draft.baseUrl usual = .ok url := by
    rw [hbase, Settings.httpUrl]
    simp only [pure_bind]
    exact if_pos ⟨hnormal.scheme, by rw [hflat]; rfl⟩
  have hpositive (field : String) {span : Span} (h : 0 < span.nanoseconds) :
      Settings.positive field span = .ok span := if_pos (decide_eq_true h)
  simp only [build, hurl, hpositive _ httl, hpositive _ htimeout]
  rfl

/-- The name of an endpoint is added to the path of a base address that ends in a slash. -/
theorem GeneratorSettings.endpointUrl_eq {settings : GeneratorSettings} {kind : TokenKind}
    {endpoint : String} (hscheme : settings.baseUrl.scheme = "http" ∨ settings.baseUrl.scheme = "https")
    {list : List String}
    (hpath : settings.baseUrl.path = .segments (list ++ [""]))
    (hendpoint : kind.endpoint? = some endpoint) :
    settings.endpointUrl endpoint = .ok { settings.baseUrl with
      path := .segments (list ++ [endpoint]), query := none, fragment := none } := by
  have hjoin := (Url.isName_of_endpoint? hendpoint).join hscheme hpath
  rw [List.dropLast_concat] at hjoin
  rw [endpointUrl, hjoin]
  rfl

/-- Every address of HTTP that has been read is accepted as a base address, with positive times.  It
is kept as it is but for a slash, which is set at the end of its path unless one is there, and not
again when settings are built of what is kept.  The address of an endpoint has the scheme, the user,
the host and the port of the base address, its path and behind it the name of the endpoint, and
neither a query nor a fragment. -/
theorem GeneratorDraft.endpoints_keep_path {text : String} {url : Url}
    (hparse : Url.parse text = .ok url) (hscheme : url.scheme = "http" ∨ url.scheme = "https")
    {draft : GeneratorDraft} (hbase : draft.baseUrl = some url)
    (httl : 0 < draft.defaultTtl.nanoseconds) (htimeout : 0 < draft.requestTimeout.nanoseconds) :
    ∃ settings, draft.build = .ok settings ∧
      settings.baseUrl = { url with path := settings.baseUrl.path } ∧
      settings.baseUrl.path.write =
        (if url.endsInSlash then url.path.write else url.path.write ++ "/") ∧
      settings.baseUrl =
        (if url.endsInSlash then url else url.setPath (url.path.write ++ "/")) ∧
      (∀ again : GeneratorDraft, again.baseUrl = some settings.baseUrl →
        0 < again.defaultTtl.nanoseconds → 0 < again.requestTimeout.nanoseconds →
        ∃ same, again.build = .ok same ∧ same.baseUrl = settings.baseUrl) ∧
      ∀ kind endpoint, TokenKind.endpoint? kind = some endpoint →
        ∃ target, settings.endpointUrl endpoint = .ok target ∧
          target = { settings.baseUrl with
            path := target.path, query := none, fragment := none } ∧
          target.path.write = settings.baseUrl.path.write ++ endpoint := by
  have hnormal := Url.isNormal_of_isRead (.parse hparse) hscheme
  obtain ⟨segments, hsegments, -⟩ := hnormal.path
  obtain ⟨list, hlist⟩ := Url.exists_path_asDirectory hsegments
  obtain ⟨honly, hwritten⟩ := hnormal.asDirectory_path
  refine ⟨_, build_of_http hbase hnormal httl htimeout, honly, hwritten, hnormal.asDirectory_eq,
    fun again hagain httl' htimeout' => ?_, fun kind endpoint hendpoint => ?_⟩
  -- A directory is its own directory, so building again from the address changes nothing.
  · exact ⟨_, build_of_http hagain hnormal.asDirectory httl' htimeout',
      Url.asDirectory_asDirectory url⟩
  -- The endpoint takes the place of the empty segment at the end.
  · refine ⟨_, GeneratorSettings.endpointUrl_eq hnormal.asDirectory.scheme hlist hendpoint, rfl, ?_⟩
    rw [hlist, Url.Path.write_append_singleton, Url.Path.write_append_singleton,
      String.append_empty]

namespace Sample

/-- An address with all its parts, and no slash at the end of its path. -/
def fullAddress : Url :=
  ⟨"http", "user", some "word", some (.ipv6 [0, 0, 0, 0, 0, 0, 0, 1]), some 8080,
    .segments ["a", "", "b%2F"], some "x=1", some "part"⟩

/-- The empty segment and the escaped slash stay, and the query and the fragment are not those of
the endpoint. -/
theorem endpoint_of_fullAddress :
    Url.parse "http://user:word@[::1]:8080/a//b%2F?x=1#part" = .ok fullAddress ∧
    ∃ settings target, GeneratorDraft.build
        { GeneratorDraft.ofUser "name" "pass" with baseUrl := some fullAddress } = .ok settings ∧
      settings.baseUrl.path.write = "/a//b%2F/" ∧ settings.baseUrl.query = some "x=1" ∧
      settings.endpointUrl "GetPersonalToken" = .ok target ∧
      target.path.write = "/a//b%2F/GetPersonalToken" ∧ target.password = some "word" ∧
      target.port = some 8080 ∧ target.query = none ∧ target.fragment = none := by
  have hparse : Url.parse "http://user:word@[::1]:8080/a//b%2F?x=1#part" = .ok fullAddress := by
    decide
  have hbase : { GeneratorDraft.ofUser "name" "pass" with
      baseUrl := some fullAddress }.baseUrl = some fullAddress := rfl
  obtain ⟨settings, hbuild, honly, hpath, -, -, hendpoints⟩ :=
    GeneratorDraft.endpoints_keep_path hparse (.inl rfl) hbase (by decide) (by decide)
  obtain ⟨target, htarget, hsame, hbelow⟩ := hendpoints .personal _ rfl
  have hwritten : settings.baseUrl.path.write = "/a//b%2F/" := hpath.trans (by decide)
  refine ⟨hparse, settings, target, hbuild, hwritten, ?_, htarget, ?_, ?_, ?_, ?_, ?_⟩
  · rw [honly]; rfl
  · rw [hbelow, hwritten]; decide
  · rw [hsame, honly]; rfl
  · rw [hsame, honly]; rfl
  · rw [hsame]
  · rw [hsame]

end Sample

end BearerCache
