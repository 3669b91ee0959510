import BearerCache.Body
import BearerCache.Proofs.SoleMember

/-! # The token in a response

A token response is an object with a text as its only member `access_token`, or a list of that text
alone.  It is looked for at the front of a body.  What follows it there is not looked at, so a body
need not be a response as a whole.

## Key results

- `parseFront_accessTokenReader_iff`: the tokens that are read of the front of a body
- `accessToken_front`: the token of any body, and what is wrong with a body without one
-/

namespace BearerCache

namespace Body

open Json

variable {body token : String} {text : List UInt8}

/-- A token response, as a whole text. -/
inductive IsResponse (token : String) (text : List UInt8) : Prop where
  | member {members : List (String × List UInt8)} {v : List UInt8} (h : IsObject members text)
      (hone : members.filter (·.1 = "access_token") = [("access_token", v)])
      (hv : IsStringOf token v)
  | element {v : List UInt8} (h : IsList [v] text) (hv : IsStringOf token v)

/-- A body with a token response at its front. -/
def StartsWith (token body : String) : Prop :=
  ∃ front rest, Text.bytes body = front ++ rest ∧ IsResponse token front

/-- What a text has for the member `access_token` of a record is the token of a response. -/
theorem soleValue_accessToken_iff (expected : String) :
    SoleValue "access_token" (.textAs expected) text (some token) ↔ IsResponse token text := by
  -- Both forms of the record are those of a sole member, with a text as its value.
  constructor
  · intro h
    cases h with
    | member hobject hone htakes =>
      have hvalue := hobject.isValue_of_filter hone
      exact .member hobject hone ((Reader.takes_text_iff hvalue).mp htakes)
    | element hlist htakes =>
      have hvalue := hlist.isValue _ List.mem_cons_self
      exact .element hlist ((Reader.takes_text_iff hvalue).mp htakes)
  · intro h
    cases h with
    | member hobject hone hv => exact .member hobject hone (Reader.takes_text hv)
    | element hlist hv => exact .element hlist (Reader.takes_text hv)

/-- What is read of the front of a text is the token of a response there. -/
theorem parseFront_accessTokenReader_iff :
    accessTokenReader.parseFront text = .ok token ↔
      ∃ front rest, text = front ++ rest ∧ IsResponse token front := by
  -- The member has to be there, as it has no default.
  have hreader : accessTokenReader.parseFront text = .ok token ↔
      ∃ front rest, text = front ++ rest ∧
        ∃ token?, SoleValue "access_token" .text front token? ∧
          required "access_token" token? = .ok token :=
    parseFront_soleMember_eq_ok_iff Reader.isExact_text
  have hrequired (token? : Option String) :
      required "access_token" token? = .ok token ↔ token? = some token := by
    cases token? <;> simp [required]
  simp only [hreader, hrequired, exists_eq_right]
  simp only [Reader.text, soleValue_accessToken_iff]

/-- A response has a bracket in it. -/
theorem IsResponse.exists_opening (h : IsResponse token text) :
    ∃ bracket : Bracket, bracket.opening ∈ text := by
  cases h with
  | member hobject =>
    obtain ⟨-, -, -⟩ := hobject
    exact ⟨.object, by simp⟩
  | element hlist =>
    obtain ⟨-, -, -⟩ := hlist
    exact ⟨.list, by simp⟩

/-- A body with a response at its front is not blank. -/
theorem StartsWith.not_isAllBlank (h : StartsWith token body) : Text.isAllBlank body = false := by
  obtain ⟨front, rest, hbody, hresponse⟩ := h
  obtain ⟨bracket, hmem⟩ := hresponse.exists_opening
  have hascii : bracket.opening.toNat < 0x80 := by cases bracket <;> decide
  have hin : bracket.opening ∈ body.toList.flatMap String.utf8EncodeChar := by
    rw [← Text.bytes_ofList, String.ofList_toList, hbody]
    exact List.mem_append_left _ hmem
  -- The bracket is a character by itself, and not a blank one.
  obtain ⟨c, hc, hcode⟩ := Text.exists_of_mem_flatMap_encodeChar hascii hin
  have hblank : Text.isBlank c = false := by
    rw [Text.isBlank, hcode]
    cases bracket <;> decide
  rw [Text.isAllBlank, List.all_eq_false]
  exact ⟨c, hc, Bool.not_eq_true _ ▸ hblank⟩

/-- The token of a body is that of a response at its front, unless that token is blank; what follows
the response makes no difference.  A body without a token is reported as empty if it or its token is
blank, and else as one that cannot be read. -/
theorem accessToken_front (body : String) :
    (∀ token, accessToken body = .ok token ↔
      StartsWith token body ∧ Text.isAllBlank token = false) ∧
    (accessToken body = .error .empty ↔
      Text.isAllBlank body ∨ ∃ token, StartsWith token body ∧ Text.isAllBlank token) ∧
    ((∃ fault, accessToken body = .error (.tokenResponse fault)) ↔
      Text.isAllBlank body = false ∧ ∀ token, ¬StartsWith token body) := by
  have hread (token : String) :
      accessTokenReader.parseFront (Text.bytes body) = .ok token ↔ StartsWith token body :=
    parseFront_accessTokenReader_iff
  by_cases hbody : Text.isAllBlank body
  · -- Nothing is looked for in a blank body, and there is nothing in it.
    have hnone (token : String) : ¬StartsWith token body := fun h =>
      Bool.false_ne_true (h.not_isAllBlank.symm.trans hbody)
    simp [accessToken, hbody, hnone]
  · have hbody' : Text.isAllBlank body = false := Bool.eq_false_iff.mpr hbody
    -- In a body that is not blank the front decides: it has a token or not, which may be blank.
    cases hparse : accessTokenReader.parseFront (Text.bytes body) with
    | error fault =>
      have hnone (token : String) : ¬StartsWith token body := by
        rw [← hread, hparse]
        exact nofun
      simp [accessToken, hbody', hparse, hnone]
    | ok token =>
      have hstarts (other : String) : StartsWith other body ↔ other = token := by
        rw [← hread, hparse, Except.ok.injEq, eq_comm]
      by_cases htoken : Text.isAllBlank token
      · simp [accessToken, hbody', hparse, hstarts, htoken]
      · have htoken' : Text.isAllBlank token = false := Bool.eq_false_iff.mpr htoken
        have hsame (other : String) :
            token = other ↔ other = token ∧ Text.isAllBlank other = false := by
          constructor
          · rintro rfl
            exact ⟨rfl, htoken'⟩
          · rintro ⟨rfl, -⟩
            rfl
        simp [accessToken, hbody', hparse, hstarts, htoken', ← hsame]

end Body

namespace Sample

open Body Json

/-- A body that starts with a response of one member. -/
theorem startsWith_abc : StartsWith "abc" "\x7b\"access_token\":\"abc\"\x7d<html>" := by
  have hname : Names "access_token" _ := .of_plain (by decide +kernel)
  have habc : IsStringOf "abc" _ := .mk (.of_plain (by decide +kernel))
  have hobject : IsObject _ _ :=
    .mk .nil (.item .none hname .nil habc.isValue (.finish .nil)) .nil
  exact ⟨_, Text.bytes "<html>", by decide +kernel, .member hobject rfl habc⟩

/-- A response with other text behind it is no object, but the token is read of it. -/
theorem trailing_text_is_passed_over :
    ¬∀ body token, accessToken body = .ok token →
      ∃ members v, IsObject members (Text.bytes body) ∧
        members.filter (·.1 = "access_token") = [("access_token", v)] ∧ IsStringOf token v ∧
        Text.isAllBlank token = false := by
  intro h
  have hread : accessToken "\x7b\"access_token\":\"abc\"\x7d<html>" = .ok "abc" := by
    have hparse := parseFront_accessTokenReader_iff.mpr startsWith_abc
    simp only [accessToken, hparse]
    rfl
  obtain ⟨members, v, hobject, -, -, -⟩ := h _ _ hread
  -- An object ends with its bracket or with white space, and the body does with neither.
  obtain ⟨b, hlast, hb⟩ := hobject.exists_getLast
  have hgreater : b = 0x3E := by
    rw [show (Text.bytes "\x7b\"access_token\":\"abc\"\x7d<html>").getLast? = some 0x3E by
      decide +kernel] at hlast
    exact (Option.some.inj hlast).symm
  rw [hgreater] at hb
  exact absurd hb (by decide)

end Sample

end BearerCache
