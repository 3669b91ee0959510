import BearerCache.Proofs.HostReading
import BearerCache.Proofs.NormalAddress
import BearerCache.Proofs.TextParts

/-! # Addresses are read back

The text of an address in its written form is read as that address: each part ends where the text
says so, since no part has a character that would end it sooner, and what is in its written form is
not changed when it is read.

## Key results

- `IsNormal.parse_write`, `IsNormal.parse_write_of_long`: an address in its written form is read
  back just if its host is short
-/

namespace BearerCache.Url

/-! ## The whole text -/

/-- All characters of a text count if none is a blank or a control. -/
theorem significant_of_lt {cs : List Char} (h : ∀ c ∈ cs, 0x20 < c.toNat) :
    significant cs = cs := by
  -- Every character is greater than a blank, so none is dropped, neither at the ends nor inside.
  have hedge : ∀ c ∈ cs, decide (c.toNat ≤ 0x20) = false := fun c hc =>
    decide_eq_false (Nat.not_le.mpr (h c hc))
  have hdrop {ds : List Char} (hds : ∀ c ∈ ds, c ∈ cs) :
      ds.dropWhile (fun c => decide (c.toNat ≤ 0x20)) = ds := by
    cases ds with
    | nil => rfl
    | cons c rest =>
      rw [List.dropWhile_cons_of_neg]
      rw [hedge c (hds c List.mem_cons_self)]
      exact Bool.false_ne_true
  -- The breaks that are left out anywhere are among the characters up to the blank.
  have hbreak : ∀ d ∈ ['\t', '\n', '\r'], ¬0x20 < d.toNat :=
    List.all_iff_forall_prop.mp (by decide)
  have hkept : ∀ c ∈ cs, (c != '\t' && c != '\n' && c != '\r') = true := by
    intro c hc
    have hne : ∀ d ∈ ['\t', '\n', '\r'], c ≠ d := fun d hd heq => hbreak d hd (heq ▸ h c hc)
    simp [hne]
  unfold significant
  dsimp only
  rw [hdrop fun c hc => hc, hdrop fun c hc => List.mem_reverse.mp hc, List.reverse_reverse,
    List.filter_eq_self.mpr hkept]

/-- The schemes of HTTP are read up to the colon. -/
theorem scheme?_http {scheme : String} (h : scheme = "http" ∨ scheme = "https")
    (rest : List Char) : scheme? (scheme.toList ++ ':' :: rest) = some (scheme, rest) := by
  rcases h with rfl | rfl <;> rfl

/-! ## Dividing a text -/

/-- A text is divided at the first character that a part does not go on with. -/
theorem takeWhile_append_cons {p : Char → Bool} {front : List Char} {d : Char}
    (hfront : ∀ c ∈ front, p c = true) (hd : p d = false) (back : List Char) :
    (front ++ d :: back).takeWhile p = front ∧ (front ++ d :: back).dropWhile p = d :: back := by
  have hstop : ¬p d = true := Bool.eq_false_iff.mp hd
  rw [List.takeWhile_append_of_pos hfront, List.dropWhile_append_of_pos hfront,
    List.takeWhile_cons_of_neg hstop, List.dropWhile_cons_of_neg hstop, List.append_nil]
  exact ⟨rfl, rfl⟩

theorem takeWhile_of_forall {p : Char → Bool} {cs : List Char} (h : ∀ c ∈ cs, p c = true) :
    cs.takeWhile p = cs ∧ cs.dropWhile p = [] :=
  ⟨List.takeWhile_eq_self_iff.mpr h, List.dropWhile_eq_nil_iff.mpr h⟩

/-! ## User and host -/

/-- Which characters an inner one is not. -/
theorem ne_of_isInner {c : Char} (h : isInner c) : c ≠ '\\' ∧ c ≠ '@' := by
  constructor <;> rintro rfl <;> exact absurd h (by decide)

/-- The last at sign divides a text. -/
theorem splitAtSign_append {before after : List Char} (h : '@' ∉ after) :
    splitAtSign (before ++ '@' :: after) = (some before, after) := by
  have hne : ∀ c ∈ after.reverse, (c != '@') = true := fun c hc =>
    bne_iff_ne.mpr fun heq => h (heq ▸ List.mem_reverse.mp hc)
  have hreverse : (before ++ '@' :: after).reverse = after.reverse ++ '@' :: before.reverse := by
    simp
  obtain ⟨htake, hdrop⟩ := takeWhile_append_cons hne (bne_self_eq_false '@') before.reverse
  rw [splitAtSign, hreverse, htake, hdrop, List.reverse_reverse]
  change (some before.reverse.reverse, after) = (some before, after)
  rw [List.reverse_reverse]

theorem splitAtSign_of_not_mem {cs : List Char} (h : '@' ∉ cs) : splitAtSign cs = (none, cs) := by
  have hne : ∀ c ∈ cs.reverse, (c != '@') = true := fun c hc =>
    bne_iff_ne.mpr fun heq => h (heq ▸ List.mem_reverse.mp hc)
  rw [splitAtSign, (takeWhile_of_forall hne).2]

/-- What is left of a user name or a password ends no part of an address. -/
theorem inner_of_leaves {c : Char} (h : EscapeSet.userInfo.leaves c) : isInner c ∧ c ≠ ':' :=
  forall_of_leaves (P := fun c => isInner c ∧ c ≠ ':') (by decide) h

/-- A text without colons is a user name. -/
theorem credentials_of_leaves {name : String} (h : ∀ c ∈ name.toList, EscapeSet.userInfo.leaves c) :
    credentials name.toList = (name, none) := by
  have hne : ∀ c ∈ name.toList, (c != ':') = true := fun c hc =>
    bne_iff_ne.mpr (inner_of_leaves (h c hc)).2
  obtain ⟨htake, hdrop⟩ := takeWhile_of_forall hne
  rw [credentials, htake, hdrop, escape_of_leaves h, String.ofList_toList]

/-- A colon divides a user name from a password. -/
theorem credentials_append {name word : String}
    (hname : ∀ c ∈ name.toList, EscapeSet.userInfo.leaves c) (hne : word ≠ "")
    (hword : ∀ c ∈ word.toList, EscapeSet.userInfo.leaves c) :
    credentials (name.toList ++ ':' :: word.toList) = (name, some word) := by
  -- The name holds no colon, so it ends at the one that is written.
  have hfront : ∀ c ∈ name.toList, (c != ':') = true := fun c hc =>
    bne_iff_ne.mpr (inner_of_leaves (hname c hc)).2
  obtain ⟨htake, hdrop⟩ := takeWhile_append_cons hfront (bne_self_eq_false ':') word.toList
  have hsome : word.toList ≠ [] := fun hnil => hne (String.toList_inj.mp hnil)
  rw [credentials, htake, hdrop]
  change (if word.toList = [] then _ else _) = _
  rw [if_neg hsome, escape_of_leaves hname, escape_of_leaves hword, String.ofList_toList,
    String.ofList_toList]

section

variable {url : Url}

/-- The user and the password are divided from what follows. -/
theorem HasNormalStart.splitAtSign_userInfo (h : url.HasNormalStart) {place : List Char}
    (hplace : '@' ∉ place) :
    ∃ user, splitAtSign (url.userInfo.toList ++ place) = (user, place) ∧
      credentials (user.getD []) = (url.username, url.password) := by
  -- There is an at sign unless there are neither a name nor a password.
  unfold userInfo
  split
  -- The password is not empty, or it would not be written.
  next word hpassword =>
    obtain ⟨hne, hword⟩ := h.password word hpassword
    refine ⟨some (url.username.toList ++ ':' :: word.toList), ?_, ?_⟩
    · rw [← splitAtSign_append hplace]
      change splitAtSign ((url.username ++ ":" ++ word ++ "@").toList ++ place) = _
      simp [String.toList_append]
    · rw [hpassword]
      exact credentials_append h.username hne hword
  next hpassword =>
    rw [hpassword]
    split
    -- With neither of them there is no at sign, and none is in the place.
    next hempty =>
      rw [hempty]
      exact ⟨none, splitAtSign_of_not_mem hplace, rfl⟩
    next =>
      refine ⟨some url.username.toList, ?_, credentials_of_leaves h.username⟩
      rw [← splitAtSign_append hplace]
      simp [String.toList_append]

/-- The characters of a user are inner ones and at signs. -/
theorem HasNormalStart.inner_of_mem_userInfo (h : url.HasNormalStart) :
    ∀ c ∈ url.userInfo.toList, isInner c ∨ c = '@' := by
  have hname : ∀ c ∈ url.username.toList, isInner c ∨ c = '@' := fun c hc =>
    .inl (inner_of_leaves (h.username c hc)).1
  have hmark : ∀ c ∈ ":@".toList, isInner c ∨ c = '@' :=
    List.all_iff_forall_prop.mp (by decide)
  unfold userInfo
  intro c hc
  split at hc
  next word hpassword =>
    -- Between the parts stand the colon and the at sign, and nothing else.
    change c ∈ (url.username ++ ":" ++ word ++ "@").toList at hc
    simp only [String.toList_append, List.mem_append] at hc
    rcases hc with ((hc | hc) | hc) | hc
    · exact hname c hc
    · exact hmark c (by simp at hc; simp [hc])
    · exact .inl (inner_of_leaves ((h.password word hpassword).2 c hc)).1
    · exact hmark c (by simp at hc; simp [hc])
  next =>
    split at hc
    next => simp at hc
    next =>
      rw [String.toList_append, List.mem_append] at hc
      rcases hc with hc | hc
      · exact hname c hc
      · exact hmark c (by simp at hc; simp [hc])

/-! ## Port -/

/-- A port is read from its digits. -/
theorem port?_toDigits {scheme : String} {port : Nat} (hle : port ≤ 65535)
    (hother : some port ≠ defaultPort? scheme) :
    port? scheme (Nat.toDigits 10 port) = .ok (some port) := by
  have hvalue : ∀ d < 10, '0' ≤ d.digitChar ∧ d.digitChar ≤ '9' ∧ d.digitChar.toNat - 0x30 = d := by
    decide
  have hread : ∀ n ≤ 65535, (Nat.toDigits 10 n).foldlM (fun n c =>
      if '0' ≤ c ∧ c ≤ '9' ∧ n * 10 + (c.toNat - 0x30) ≤ 65535 then
        some (n * 10 + (c.toNat - 0x30))
      else none) 0 = some n := by
    -- The last digit comes off the end, and what is before it is no greater.
    intro n
    induction n using Nat.strongRecOn with
    | ind n ih =>
      intro hle
      -- The number is its last digit.
      rw [Nat.toDigits_eq_if (by decide)]
      split
      next hlt =>
        obtain ⟨hlow, hhigh, hdigit⟩ := hvalue n hlt
        simp [hlow, hhigh, hdigit, hle]
      next =>
        obtain ⟨hlow, hhigh, hdigit⟩ := hvalue (n % 10) (Nat.mod_lt _ (by decide))
        rw [List.foldlM_append, ih (n / 10) (by omega) (by omega)]
        simp [hlow, hhigh, hdigit, Nat.div_add_mod', hle]
  -- The port of the scheme itself is not written.
  have hnot : ¬(Nat.toDigits 10 port = [] ∨ some port = defaultPort? scheme) :=
    not_or.mpr ⟨Nat.toDigits_ne_nil, hother⟩
  rw [port?, hread port hle]
  exact if_neg hnot

/-- What follows a host is a colon and the digits of the port, or nothing. -/
theorem portText_cases (url : Url) :
    url.port = none ∧ url.portText.toList = [] ∨
      ∃ port, url.port = some port ∧ url.portText.toList = ':' :: Nat.toDigits 10 port := by
  unfold portText
  split
  next port hport =>
    refine .inr ⟨port, hport, ?_⟩
    change (":" ++ toString port).toList = _
    simp [String.toList_append]
  next hport => exact .inl ⟨hport, rfl⟩

/-- No character of the port ends it. -/
theorem isInner_of_mem_portText (url : Url) : ∀ c ∈ url.portText.toList, isInner c := by
  have hdigit (n : Nat) : ∀ c ∈ Nat.toDigits 10 n, isInner c :=
    forall_mem_toDigits (by decide) (by decide) n
  rcases portText_cases url with ⟨-, htext⟩ | ⟨port, -, htext⟩
  · simp [htext]
  · rw [htext]
    exact List.forall_mem_cons.mpr ⟨by decide, hdigit port⟩

/-- The port is read from what follows the host. -/
theorem HasNormalStart.port?_portText (h : url.HasNormalStart) :
    port? url.scheme ((url.portText.toList.drop 1).takeWhile (· != '\\')) = .ok url.port := by
  have hinner := isInner_of_mem_portText url
  rcases portText_cases url with ⟨hport, htext⟩ | ⟨port, hport, htext⟩
  -- Without a port nothing is written; with one, the colon is dropped and the digits are read.
  · rw [htext, hport]
    rfl
  · obtain ⟨hle, hother⟩ := h.port port hport
    rw [htext] at hinner ⊢
    have hdigits : ∀ c ∈ Nat.toDigits 10 port, (c != '\\') = true := fun c hc =>
      bne_iff_ne.mpr (ne_of_isInner (hinner c (List.mem_cons_of_mem ':' hc))).1
    rw [List.drop_succ_cons, List.drop_zero, (takeWhile_of_forall hdigits).1,
      port?_toDigits hle hother, hport]

/-! ## Path, query and fragment -/

/-- The text of a path has its segments, with slashes. -/
theorem toList_write_segments {list : List String} (h : list ≠ []) :
    (Path.segments list).write.toList = '/' :: ['/'].intercalate (list.map String.toList) := by
  have hslash : "/".toList = ['/'] := by decide
  rw [Path.write]
  induction list with
  | nil => exact absurd rfl h
  -- The slash before the first segment is the one that is not between two segments.
  | cons segment rest ih =>
    cases rest with
    | nil => simp [String.join, String.toList_append, hslash]
    | cons next rest =>
      have hrest := ih (List.cons_ne_nil next rest)
      simp only [List.map_cons, String.join_cons, String.toList_append, hslash] at hrest ⊢
      rw [hrest, List.intercalate_cons_cons]
      simp

/-- What is left of a path does not end it. -/
theorem plain_of_leaves_path {c : Char} (h : EscapeSet.path.leaves c) :
    0x20 < c.toNat ∧ endsPath c = false :=
  forall_of_leaves (P := fun c => 0x20 < c.toNat ∧ endsPath c = false) (by decide) h

/-- What is left of a query does not end it. -/
theorem plain_of_leaves_query {c : Char} (h : EscapeSet.specialQuery.leaves c) :
    0x20 < c.toNat ∧ c ≠ '#' :=
  forall_of_leaves (P := fun c => 0x20 < c.toNat ∧ c ≠ '#') (by decide) h

theorem plain_of_leaves_fragment {c : Char} (h : EscapeSet.fragment.leaves c) : 0x20 < c.toNat :=
  forall_of_leaves (P := fun c => 0x20 < c.toNat) (by decide) h

/-- The query is a question mark and its text, or nothing. -/
theorem queryText_cases (url : Url) :
    url.query = none ∧ url.queryText.toList = [] ∨
      ∃ query, url.query = some query ∧ url.queryText.toList = '?' :: query.toList := by
  have hmark : "?".toList = ['?'] := by decide
  unfold queryText
  split
  next query hquery =>
    exact .inr ⟨query, hquery, by rw [String.toList_append, hmark, List.singleton_append]⟩
  next hquery => exact .inl ⟨hquery, rfl⟩

/-- The fragment is a number sign and its text, or nothing. -/
theorem fragmentText_cases (url : Url) :
    url.fragment = none ∧ url.fragmentText.toList = [] ∨
      ∃ fragment, url.fragment = some fragment ∧
        url.fragmentText.toList = '#' :: fragment.toList := by
  have hsign : "#".toList = ['#'] := by decide
  unfold fragmentText
  split
  next fragment hfragment =>
    exact .inr ⟨fragment, hfragment, by rw [String.toList_append, hsign, List.singleton_append]⟩
  next hfragment => exact .inl ⟨hfragment, rfl⟩

/-- The query and the fragment are read from their text. -/
theorem IsNormal.withQueryAndFragment_eq (h : url.IsNormal) {base : Url}
    (hscheme : base.scheme = url.scheme) :
    base.withQueryAndFragment (url.queryText.toList ++ url.fragmentText.toList) =
      { base with query := url.query, fragment := url.fragment } := by
  have hspecial := isSpecial_of_http h.scheme
  have hmark : ('?' != '#') = true := by decide
  have hsign : ('#' != '#') = false := bne_self_eq_false '#'
  unfold Url.withQueryAndFragment
  rw [hscheme, if_pos hspecial]
  -- A query ends where a fragment begins, and either may be missing.
  rcases queryText_cases url with ⟨hquery, hqueryText⟩ | ⟨query, hquery, hqueryText⟩
  · rcases fragmentText_cases url with
      ⟨hfragment, hfragmentText⟩ | ⟨fragment, hfragment, hfragmentText⟩
    · rw [hqueryText, hfragmentText, hquery, hfragment]
      rfl
    -- Without a query the fragment is all there is.
    · have hleaves := h.fragment fragment hfragment
      rw [hqueryText, hfragmentText, hquery, hfragment, List.nil_append]
      simp [escape_of_leaves hleaves]
  · have hleaves := h.query query hquery
    -- No number sign is in the query, so the fragment begins where it was written.
    have hplain : ∀ c ∈ query.toList, (c != '#') = true := fun c hc =>
      bne_iff_ne.mpr (plain_of_leaves_query (hleaves c hc)).2
    rcases fragmentText_cases url with
      ⟨hfragment, hfragmentText⟩ | ⟨fragment, hfragment, hfragmentText⟩
    · obtain ⟨htake, hdrop⟩ := takeWhile_of_forall hplain
      rw [hqueryText, hfragmentText, hquery, hfragment, List.append_nil]
      simp [hmark, htake, hdrop, escape_of_leaves hleaves]
    · obtain ⟨htake, hdrop⟩ := takeWhile_append_cons hplain hsign fragment.toList
      have hleaves' := h.fragment fragment hfragment
      rw [hqueryText, hfragmentText, hquery, hfragment, List.cons_append]
      simp [hmark, htake, hdrop, escape_of_leaves hleaves, escape_of_leaves hleaves']

/-- The path, the query and the fragment are read from their text. -/
theorem IsNormal.withPath_eq (h : url.IsNormal) (base : Url) (hscheme : base.scheme = url.scheme)
    {list : List String} (hpath : url.path = .segments list) :
    base.withPath [] (['/'].intercalate (list.map String.toList) ++
        (url.queryText.toList ++ url.fragmentText.toList)) =
      { base with path := url.path, query := url.query, fragment := url.fragment } := by
  obtain ⟨segments, hsegments, hne, hall⟩ := h.path
  cases hpath.symm.trans hsegments
  have hspecial := isSpecial_of_http h.scheme
  have hfile := ne_file_of_http h.scheme
  -- The path goes on up to the query or the fragment.
  have hinside : ∀ c ∈ ['/'].intercalate (list.map String.toList), (!endsPath c) = true := by
    intro c hc
    rcases Text.mem_intercalate hc with hc | ⟨part, hpart, hc⟩
    · rw [List.mem_singleton.mp hc]
      decide
    · obtain ⟨segment, hsegment, rfl⟩ := List.mem_map.mp hpart
      rw [(plain_of_leaves_path ((hall segment hsegment).leaves c hc)).2]
      rfl
  -- Behind the path is nothing, a question mark or a number sign, and each of these ends it.
  have hends : (url.queryText.toList ++ url.fragmentText.toList).takeWhile (!endsPath ·) = [] ∧
      (url.queryText.toList ++ url.fragmentText.toList).dropWhile (!endsPath ·) =
        url.queryText.toList ++ url.fragmentText.toList := by
    rcases queryText_cases url with ⟨-, hquery⟩ | ⟨query, -, hquery⟩
    · rcases fragmentText_cases url with ⟨-, hfragment⟩ | ⟨fragment, -, hfragment⟩
      · simp [hquery, hfragment]
      · simp [hquery, hfragment, endsPath]
    · simp [hquery, endsPath]
  -- No slash is in a segment, so the segments are what is between the slashes.
  have hparts : (['/'].intercalate (list.map String.toList)).splitOnP (isSlash true) =
      list.map String.toList := by
    refine Text.splitOnP_intercalate rfl (by simp [hne]) fun part hpart => ?_
    obtain ⟨segment, hsegment, rfl⟩ := List.mem_map.mp hpart
    exact (hall segment hsegment).plain
  rw [Url.withPath_eq (hscheme ▸ hfile), List.takeWhile_append_of_pos hinside,
    List.dropWhile_append_of_pos hinside, hends.1, hends.2, List.append_nil, segmentsFrom, hscheme,
    hspecial, beq_false_of_ne hfile, hparts, addSegments_of_isSegment [] hall, List.nil_append,
    hpath]
  exact h.withQueryAndFragment_eq rfl

/-! ## Addresses -/

/-- The text of an address in its written form. -/
theorem IsNormal.toList_write (h : url.IsNormal) {host : Host} (hhost : url.host = some host)
    {list : List String} (hpath : url.path = .segments list) :
    url.write.toList = url.scheme.toList ++ ':' :: '/' :: '/' ::
      (url.userInfo.toList ++ (host.write.toList ++ url.portText.toList) ++
        '/' :: (['/'].intercalate (list.map String.toList) ++
          (url.queryText.toList ++ url.fragmentText.toList))) := by
  obtain ⟨segments, hsegments, hne, -⟩ := h.path
  cases hpath.symm.trans hsegments
  have hcolon : ":".toList = [':'] := by decide
  have hslashes : "//".toList = ['/', '/'] := by decide
  -- There is a host, so nothing has to keep the path from being taken for one.
  have hpathText : url.pathText.toList = '/' :: ['/'].intercalate (list.map String.toList) := by
    rw [pathText, hhost, hpath]
    exact toList_write_segments hne
  simp only [write, hhost, String.toList_append, hcolon, hslashes, hpathText]
  simp

/-- Whether no label of the host of an address has a Punycode that is too long to be read. -/
def isShort (url : Url) : Bool :=
  url.host.all Host.isShort

/-- An inner character is no blank and ends neither the host nor the path. -/
theorem plain_of_isInner {c : Char} (h : isInner c) :
    0x20 < c.toNat ∧ (!(isSlash true c || endsPath c)) = true := by
  simp only [isInner, Bool.and_eq_true, decide_eq_true_eq, Bool.not_eq_true'] at h
  exact ⟨h.1.1.1, by rw [h.1.1.2, h.1.2]; rfl⟩

/-- No character that is before the path ends what it is in. -/
theorem HasNormalStart.plain_of_mem_authority (h : url.HasNormalStart) {host : Host}
    (hplace : IsHostText host.write.toList) :
    ∀ c ∈ url.userInfo.toList ++ (host.write.toList ++ url.portText.toList),
      0x20 < c.toNat ∧ (!(isSlash true c || endsPath c)) = true := by
  intro c hc
  -- Of the characters before the host only the at sign is not an inner one.
  rcases List.mem_append.mp hc with hc | hc
  · rcases h.inner_of_mem_userInfo c hc with hinner | rfl
    · exact plain_of_isInner hinner
    · decide
  · exact plain_of_isInner
      ((List.mem_append.mp hc).elim (hplace.inner c) (isInner_of_mem_portText url c))

/-- What follows the two slashes of an address of HTTP is read as such. -/
theorem parse_eq_afterSlashes {scheme text : String} (hscheme : scheme = "http" ∨ scheme = "https")
    {authority rest : List Char} (hne : authority ≠ [])
    (hauthority : ∀ c ∈ authority, 0x20 < c.toNat ∧ (!(isSlash true c || endsPath c)) = true)
    (hrest : ∀ c ∈ rest, 0x20 < c.toNat)
    (htext : text.toList = scheme.toList ++ ':' :: '/' :: '/' :: (authority ++ rest)) :
    parse text = afterSlashes scheme (authority ++ rest) := by
  -- Nothing is trimmed and no break is left out, for every character is greater than a blank.
  have hmarks : ∀ c ∈ scheme.toList, 0x20 < c.toNat := by
    rcases hscheme with rfl | rfl <;> exact List.all_iff_forall_prop.mp (by decide)
  have hplain : ∀ c ∈ text.toList, 0x20 < c.toNat := by
    rw [htext]
    simp only [List.forall_mem_append, List.forall_mem_cons]
    exact ⟨hmarks, by decide, by decide, by decide, fun c hc => (hauthority c hc).1, hrest⟩
  -- What follows the two slashes begins with no third one.
  have hslashes : (('/' :: '/' :: (authority ++ rest)).takeWhile (isSlash true)).length = 2 := by
    obtain ⟨c, more, rfl⟩ := List.exists_cons_of_ne_nil hne
    have hc := (hauthority c List.mem_cons_self).2
    rw [Bool.not_eq_true', Bool.or_eq_false_iff] at hc
    have htwo : ∀ d ∈ ['/', '/'], isSlash true d = true := List.all_iff_forall_prop.mp (by decide)
    exact congrArg List.length (takeWhile_append_cons htwo hc.1 (more ++ rest)).1
  unfold Url.parse parseBeside
  rw [significant_of_lt hplain, htext]
  dsimp only
  rw [scheme?_http hscheme]
  dsimp only
  rw [ofScheme, if_neg (ne_file_of_http hscheme), if_pos (isSpecial_of_http hscheme), hslashes]
  rfl

/-- After two slashes come the user, the host and the port, up to a slash or to what ends a path,
and then the path.  Only the host may be refused. -/
theorem afterSlashes_append {scheme : String} (hspecial : isSpecial scheme = true)
    {authority place rest cs portChars : List Char} {user : Option (List Char)} {port : Option Nat}
    (hauthority : ∀ c ∈ authority, (!(isSlash true c || endsPath c)) = true)
    (hrest : ∀ c ∈ rest.head?, isSlash true c) (hsplit : splitAtSign authority = (user, place))
    (hplace : place = cs ++ portChars) (hne : cs ≠ []) (hchars : hostChars false place = cs)
    (hport : port? scheme ((portChars.drop 1).takeWhile (· != '\\')) = .ok port)
    (hslash : portChars.dropWhile (· != '\\') = []) :
    afterSlashes scheme (authority ++ rest) = (Host.ofText cs).map fun host =>
      (⟨scheme, (credentials (user.getD [])).1, (credentials (user.getD [])).2, some host, port,
        .segments [], none, none⟩ : Url).withPath [] (rest.drop 1) := by
  -- The authority ends before the first slash, and there is one unless nothing follows.
  have hends : (authority ++ rest).takeWhile (fun c => !(isSlash true c || endsPath c)) = authority ∧
      (authority ++ rest).dropWhile (fun c => !(isSlash true c || endsPath c)) = rest := by
    cases rest with
    | nil => simpa using takeWhile_of_forall hauthority
    | cons c rest =>
      refine takeWhile_append_cons hauthority ?_ rest
      rw [hrest c rfl]
      rfl
  have hof : hostOf scheme cs = Host.ofText cs := by
    rw [hostOf, if_pos hspecial, if_neg hne]
  have hnonempty : place ≠ [] := fun hnil =>
    hne (List.append_eq_nil_iff.mp (hplace.symm.trans hnil)).1
  have hafter : place.drop cs.length = portChars := by
    rw [hplace, List.drop_left]
  simp only [afterSlashes, hspecial, hends.1, hends.2, hsplit, hchars, hof, hafter, hport, hslash,
    List.nil_append, bind, Except.bind, pure, Except.pure]
  rw [if_neg fun hnone => hnonempty hnone.2.1]
  cases hread : Host.ofText cs with
  | error fault => rfl
  | ok host =>
    -- A host that has been read is not empty, so neither the port nor the user is in the way.
    have hnamed := Host.ne_empty_of_ofText hread
    dsimp only
    rw [if_neg fun hnone => hnamed hnone.1, if_neg fun hnone => hnamed hnone.1]
    cases rest with
    | nil => rfl
    | cons c rest =>
      dsimp only
      rw [if_pos (hrest c rfl)]
      rfl

/-- What is written after the two slashes is read back, but for the host that is read from its own
text. -/
theorem IsNormal.afterSlashes_write (h : url.IsNormal) {host : Host}
    (hplace : IsHostText host.write.toList) {list : List String}
    (hpath : url.path = .segments list) :
    afterSlashes url.scheme
      (url.userInfo.toList ++ (host.write.toList ++ url.portText.toList) ++
        '/' :: (['/'].intercalate (list.map String.toList) ++
          (url.queryText.toList ++ url.fragmentText.toList))) =
      (Host.ofText host.write.toList).map fun read => { url with host := some read } := by
  -- No character of the place has a meaning of its own, so the at sign is the one that was written,
  -- and the colon that of the port.
  have hinner : ∀ c ∈ host.write.toList ++ url.portText.toList, isInner c := fun c hc =>
    (List.mem_append.mp hc).elim (hplace.inner c) (isInner_of_mem_portText url c)
  have hat : '@' ∉ host.write.toList ++ url.portText.toList := fun hmem =>
    (ne_of_isInner (hinner _ hmem)).2 rfl
  obtain ⟨user, hsplit, hcredentials⟩ := h.splitAtSign_userInfo hat
  -- A host is read up to the colon of the port, also one in brackets.
  have hchars : hostChars false (host.write.toList ++ url.portText.toList) = host.write.toList := by
    rcases portText_cases url with ⟨-, htext⟩ | ⟨port, -, htext⟩
    · rw [htext, List.append_nil, hplace.hostChars]
    · rw [htext, hplace.hostChars_colon]
  have hslash : url.portText.toList.dropWhile (· != '\\') = [] :=
    (takeWhile_of_forall fun c hc =>
      bne_iff_ne.mpr (ne_of_isInner (isInner_of_mem_portText url c hc)).1).2
  rw [afterSlashes_append (isSpecial_of_http h.scheme)
    (fun c hc => (h.plain_of_mem_authority hplace c hc).2) (by simp [isSlash]) hsplit rfl
    hplace.nonempty hchars h.port?_portText hslash, hcredentials, List.drop_succ_cons,
    List.drop_zero]
  refine congrArg (Except.map · _) (funext fun read => ?_)
  exact h.withPath_eq ⟨url.scheme, url.username, url.password, some read, url.port, .segments [],
    none, none⟩ rfl hpath

/-- What is written from the path on has no blanks and no controls. -/
theorem IsNormal.lt_of_mem_rest (h : url.IsNormal) {list : List String}
    (hpath : url.path = .segments list) :
    ∀ c ∈ '/' :: (['/'].intercalate (list.map String.toList) ++
      (url.queryText.toList ++ url.fragmentText.toList)), 0x20 < c.toNat := by
  obtain ⟨segments, hsegments, -, hlist⟩ := h.path
  cases hpath.symm.trans hsegments
  -- Each part needed no escape, and a blank or a control would have needed one.
  have hsegments : ∀ c ∈ ['/'].intercalate (list.map String.toList), 0x20 < c.toNat := by
    intro c hc
    rcases Text.mem_intercalate hc with hc | ⟨part, hpart, hc⟩
    · rw [List.mem_singleton.mp hc]
      decide
    · obtain ⟨segment, hsegment, rfl⟩ := List.mem_map.mp hpart
      exact (plain_of_leaves_path ((hlist segment hsegment).leaves c hc)).1
  have hquery : ∀ c ∈ url.queryText.toList, 0x20 < c.toNat := by
    rcases queryText_cases url with ⟨-, htext⟩ | ⟨query, hsome, htext⟩
    · simp [htext]
    · rw [htext]
      exact List.forall_mem_cons.mpr ⟨by decide, fun c hc =>
        (plain_of_leaves_query (h.query query hsome c hc)).1⟩
  have hfragment : ∀ c ∈ url.fragmentText.toList, 0x20 < c.toNat := by
    rcases fragmentText_cases url with ⟨-, htext⟩ | ⟨fragment, hsome, htext⟩
    · simp [htext]
    · rw [htext]
      exact List.forall_mem_cons.mpr ⟨by decide, fun c hc =>
        plain_of_leaves_fragment (h.fragment fragment hsome c hc)⟩
  simp only [List.forall_mem_append, List.forall_mem_cons]
  exact ⟨by decide, hsegments, hquery, hfragment⟩

/-- An address in its written form is read back, but for the host that is read from its own text. -/
theorem IsNormal.parse_write_eq (h : url.IsNormal) {host : Host} (hhost : url.host = some host)
    (hplace : IsHostText host.write.toList) :
    parse url.write =
      (Host.ofText host.write.toList).map fun read => { url with host := some read } := by
  obtain ⟨list, hpath, -, -⟩ := h.path
  have hne : url.userInfo.toList ++ (host.write.toList ++ url.portText.toList) ≠ [] := fun hnil =>
    hplace.nonempty (List.append_eq_nil_iff.mp (List.append_eq_nil_iff.mp hnil).2).1
  rw [parse_eq_afterSlashes h.scheme hne (h.plain_of_mem_authority hplace)
    (h.lt_of_mem_rest hpath) (h.toList_write hhost hpath)]
  exact h.afterSlashes_write hplace hpath

/-- An address in its written form is read back, if no label of its host has a Punycode that is too
long. -/
theorem IsNormal.parse_write (h : url.IsNormal) (hshort : url.isShort) :
    parse url.write = .ok url := by
  obtain ⟨host, text, hhost, hof⟩ := h.host
  rw [isShort, hhost, Option.all_some] at hshort
  rw [h.parse_write_eq hhost (Host.isHostText_write hof), Host.ofText_write hof hshort, Except.map,
    ← hhost]

/-- An address in its written form is refused, if a label of its host has a Punycode that is too
long. -/
theorem IsNormal.parse_write_of_long (h : url.IsNormal) (hlong : url.isShort = false) :
    parse url.write = .error .invalidDomain := by
  obtain ⟨host, text, hhost, hof⟩ := h.host
  rw [isShort, hhost, Option.all_some] at hlong
  rw [h.parse_write_eq hhost (Host.isHostText_write hof), Host.ofText_write_of_long hof hlong]
  rfl

end

end BearerCache.Url
