import BearerCache.Proofs.Construction

/-! # Options one by one or all at once

A request that has been made can be given further options, one after the other.  That comes to the
request that all options together make, or to none if they make none.  What differs is only which
fault is reported: options that are given together have all their names checked before any value,
and options that are added one after the other are refused at the first one that makes no request
with those before it.

## Key results

- `withOption_eq_ofPairs`: one further option
- `withOptions_eq_ok_iff`, `withOptions_eq_error_iff`: any number of further options
- `withOptions_agrees`: one by one is the same as all at once
-/

namespace BearerCache.TokenRequest

variable {kind : TokenKind} {pairs more : List (String × String)} {request next : TokenRequest}
  {fault : RequestFault}

/-- The request with further options, which are added one after the other. -/
def withOptions (request : TokenRequest) (pairs : List (String × String)) :
    Except RequestFault TokenRequest :=
  pairs.foldlM (fun request pair => request.withOption pair.1 pair.2) request

/-- A request is of the kind that it was made for. -/
theorem kind_of_ofPairs (h : ofPairs kind pairs = .ok request) : request.kind = kind := by
  unfold ofPairs at h
  split at h
  next => cases h
  next => exact (foldlM_put_eq_ok h).2.1

/-- One further option comes to what all options together come to, and is refused for the same
fault. -/
theorem withOption_eq_ofPairs (h : ofPairs kind pairs = .ok request) (name value : String) :
    request.withOption name value = ofPairs kind (pairs ++ [(name, value)]) := by
  have hkind := kind_of_ofPairs h
  unfold ofPairs at h
  split at h
  next => cases h
  next hnames =>
    -- All names before it are allowed, so this one decides.
    have hallowed := checkNames_eq_ok_iff.mp hnames
    have hfind : (pairs.map (·.1)).find? (!kind.allows ·) = none := by
      simpa [List.find?_eq_none] using hallowed
    have hcheck : checkNames kind ((pairs ++ [(name, value)]).map (·.1)) =
        checkNames kind [name] := by
      rw [checkNames, List.map_append, List.find?_append, hfind, Option.none_or]
      rfl
    rw [withOption, ofPairs, hkind, hcheck, List.foldlM_append, h]
    cases checkNames kind [name] with
    | error fault => rfl
    | ok =>
      show request.put (name, value) = [(name, value)].foldlM put request
      rw [List.foldlM_cons]
      cases request.put (name, value) <;> rfl

/-- Options that make a request do so without the last ones. -/
theorem exists_ofPairs_of_append (h : ofPairs kind (pairs ++ more) = .ok next) :
    ∃ request, ofPairs kind pairs = .ok request := by
  have hproper := exists_ofPairs_iff.mp ⟨next, h⟩
  exact exists_ofPairs_iff.mpr fun pair hpair => hproper pair (List.mem_append_left more hpair)

/-- Further options come to the request that all options together make. -/
theorem withOptions_eq_ok_iff (h : ofPairs kind pairs = .ok request) :
    request.withOptions more = .ok next ↔ ofPairs kind (pairs ++ more) = .ok next := by
  -- Each further pair is one pair more of the list, so the list grows by the pairs already taken.
  induction more generalizing pairs request with
  | nil =>
    rw [List.append_nil, h]
    exact Iff.rfl
  | cons pair more ih =>
    have hone : request.withOption pair.1 pair.2 = ofPairs kind (pairs ++ [pair]) :=
      withOption_eq_ofPairs h pair.1 pair.2
    rw [withOptions, List.foldlM_cons, hone, List.append_cons pairs pair more]
    cases hpairs : ofPairs kind (pairs ++ [pair]) with
    | ok taken => exact ih hpairs
    | error fault =>
      -- What has made no request so far will make none.
      constructor
      · intro hok
        cases hok
      · intro hok
        obtain ⟨taken, htaken⟩ := exists_ofPairs_of_append hok
        cases hpairs.symm.trans htaken

/-- Further options are refused for the fault of the first one that makes no request together with
all options before it. -/
theorem withOptions_eq_error_iff (h : ofPairs kind pairs = .ok request) :
    request.withOptions more = .error fault ↔
      ∃ front pair rest, more = front ++ pair :: rest ∧
        (∃ taken, ofPairs kind (pairs ++ front) = .ok taken) ∧
        ofPairs kind (pairs ++ front ++ [pair]) = .error fault := by
  induction more generalizing pairs request with
  | nil =>
    constructor
    · intro herror
      cases herror
    · rintro ⟨front, pair, rest, hsplit, -⟩
      simp at hsplit
  | cons first more ih =>
    have hone : request.withOption first.1 first.2 = ofPairs kind (pairs ++ [first]) :=
      withOption_eq_ofPairs h first.1 first.2
    rw [withOptions, List.foldlM_cons, hone]
    cases hpairs : ofPairs kind (pairs ++ [first]) with
    -- The first pair is taken, so it stands in front of the split or the split is of the rest.
    | ok taken =>
      refine (ih hpairs).trans ⟨?_, ?_⟩
      · rintro ⟨front, pair, rest, rfl, hfront, hfault⟩
        refine ⟨first :: front, pair, rest, rfl, ?_, ?_⟩
        · rwa [List.append_cons pairs first front]
        · rwa [List.append_cons pairs first front]
      · rintro ⟨front, pair, rest, hsplit, hfront, hfault⟩
        cases front with
        | nil =>
          obtain ⟨rfl, rfl⟩ := List.cons.inj hsplit
          rw [List.append_nil] at hfault
          cases hpairs.symm.trans hfault
        | cons other front =>
          obtain ⟨rfl, rfl⟩ := List.cons.inj hsplit
          rw [List.append_cons pairs first front] at hfront hfault
          exact ⟨front, pair, rest, rfl, hfront, hfault⟩
    -- The first pair is refused: the split is before it, as a longer front would not be taken
    -- either.
    | error refused =>
      constructor
      · intro herror
        cases herror
        refine ⟨[], first, more, rfl, ⟨request, ?_⟩, ?_⟩
        · rwa [List.append_nil]
        · rwa [List.append_nil]
      · rintro ⟨front, pair, rest, hsplit, ⟨taken, htaken⟩, hfault⟩
        cases front with
        | nil =>
          obtain ⟨rfl, rfl⟩ := List.cons.inj hsplit
          rw [List.append_nil] at hfault
          exact hpairs.symm.trans hfault
        | cons other front =>
          obtain ⟨rfl, rfl⟩ := List.cons.inj hsplit
          rw [List.append_cons pairs first front] at htaken
          obtain ⟨early, hearly⟩ := exists_ofPairs_of_append htaken
          cases hpairs.symm.trans hearly

/-- Options that are added to a request one after the other make a request if and only if all
options together do; it is the same one, with the same key.  If only one is added, it is refused
for the same fault.  If there are more, the fault is that of the shortest beginning of all options
that makes no request. -/
theorem withOptions_agrees (h : ofPairs kind pairs = .ok request) :
    (∀ more, (∃ next, request.withOptions more = .ok next) ↔
      ∃ next, ofPairs kind (pairs ++ more) = .ok next) ∧
    (∀ more next next', request.withOptions more = .ok next →
      ofPairs kind (pairs ++ more) = .ok next' → next = next' ∧ next.key = next'.key) ∧
    (∀ name value, request.withOption name value = ofPairs kind (pairs ++ [(name, value)])) ∧
    (∀ more fault, request.withOptions more = .error fault ↔
      ∃ front pair rest, more = front ++ pair :: rest ∧
        (∃ taken, ofPairs kind (pairs ++ front) = .ok taken) ∧
        ofPairs kind (pairs ++ front ++ [pair]) = .error fault) := by
  refine ⟨fun more => exists_congr fun next => withOptions_eq_ok_iff h,
    fun more next next' hnext hnext' => ?_, withOption_eq_ofPairs h,
    fun more fault => withOptions_eq_error_iff h⟩
  -- Both ways accept the same lists, so only the results are left to compare.
  rw [withOptions_eq_ok_iff h, hnext'] at hnext
  cases hnext
  exact ⟨rfl, rfl⟩

end BearerCache.TokenRequest

namespace BearerCache.Sample

/-- A lifetime is replaced and scopes are added, in either way; and a lifetime that is none is
refused before a name that the kind does not have only if they are added one after the other. -/
theorem further_options_of_platform :
    (∃ request next, TokenRequest.ofPairs .platform [("ttl", "60"), ("env", "tt02")] = .ok request ∧
      request.withOptions [("ttl", " +7 "), ("app", "a b")] = .ok next ∧
      TokenRequest.ofPairs .platform
        [("ttl", "60"), ("env", "tt02"), ("ttl", " +7 "), ("app", "a b")] = .ok next ∧
      request.withOptions [("ttl", "soon"), ("pid", "1")] = .error (.invalidTtl "soon") ∧
      TokenRequest.ofPairs .platform
        [("ttl", "60"), ("env", "tt02"), ("ttl", "soon"), ("pid", "1")] =
          .error (.unknownOption .platform "pid")) := by
  have hmade : TokenRequest.ofPairs .platform [("ttl", "60"), ("env", "tt02")] =
      .ok ⟨.platform, (NameMap.empty.insert "ttl" "60").insert "env" "tt02"⟩ := by decide
  obtain ⟨hsame, hequal, -, hfault⟩ := TokenRequest.withOptions_agrees hmade
  have hjoined : TokenRequest.ofPairs .platform
      [("ttl", "60"), ("env", "tt02"), ("ttl", " +7 "), ("app", "a b")] =
      .ok ⟨.platform,
        ((NameMap.empty.insert "ttl" "+7").insert "env" "tt02").insert "app" "a b"⟩ := by
    decide
  obtain ⟨next, hnext⟩ := (hsame [("ttl", " +7 "), ("app", "a b")]).mpr ⟨_, hjoined⟩
  obtain ⟨rfl, -⟩ := hequal _ next _ hnext hjoined
  refine ⟨_, _, hmade, hnext, hjoined, (hfault _ _).mpr ?_, by decide⟩
  exact ⟨[], ("ttl", "soon"), [("pid", "1")], rfl, ⟨_, hmade⟩, by decide⟩

end BearerCache.Sample
