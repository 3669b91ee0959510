import Mathlib.Algebra.Group.Nat.Defs
import BearerCache.Proofs.HostText
import BearerCache.Proofs.TextParts

/-! # Addresses of numbers are read back

A host that is a number is written with digits: four bytes with points, or eight pieces with
colons.  The digits of a number are read as that number, and the longest run of zeros is left out
between two colons, where it is put back.

## Key results

- `numberInBase?_toDigits`: a number is read from its digits
- `ipv4?_ipv4Text`: a version four address is read from its text
- `ipv6?_ipv6Text`: a version six address is read from its text
-/

namespace BearerCache.Url

/-! ## Digits -/

/-- One more digit is read as the last of a number. -/
theorem numberInBase?_append {base n d : Nat} (cs : List Char) (hsixteen : base ≤ 16)
    (h : numberInBase? base cs = some n) (hd : d < base) :
    numberInBase? base (cs ++ [d.digitChar]) = some (n * base + d) := by
  have hvalue : ∀ d < 16, Text.hexValue? d.digitChar.toNat = some d := by decide
  unfold numberInBase? at h ⊢
  rw [List.foldlM_append, h]
  simp [hvalue d (by omega), hd]

/-- A number is read from its digits. -/
theorem numberInBase?_toDigits {base : Nat} (hbase : 1 < base) (hsixteen : base ≤ 16) (n : Nat) :
    numberInBase? base (Nat.toDigits base n) = some n := by
  -- On the number, whose last digit is written behind the others.
  induction n using Nat.strongRecOn with
  | ind n ih =>
    rw [Nat.toDigits_eq_if hbase]
    split
    next hlt =>
      have hone := numberInBase?_append [] hsixteen rfl hlt
      rwa [Nat.zero_mul, Nat.zero_add, List.nil_append] at hone
    next hle =>
      have hfront := ih (n / base) (Nat.div_lt_self (by omega) hbase)
      rw [numberInBase?_append _ hsixteen hfront (Nat.mod_lt _ (by omega)), Nat.div_add_mod']

/-- Steps that take one more digit each come to no greater number than there are digits for. -/
theorem lt_of_foldlM {base n : Nat} {f : Nat → Char → Option Nat}
    (hf : ∀ m c next, f m c = some next → next + 1 ≤ (m + 1) * base) {cs : List Char} {m : Nat}
    (h : cs.foldlM f m = some n) : n < (m + 1) * base ^ cs.length := by
  -- On the digits, with what the ones before have come to; each multiplies the bound by the base.
  induction cs generalizing m with
  | nil =>
    cases h
    simp
  | cons c cs ih =>
    rw [List.foldlM_cons, Option.bind_eq_bind, Option.bind_eq_some_iff] at h
    obtain ⟨next, hnext, hrest⟩ := h
    calc n < (next + 1) * base ^ cs.length := ih hrest
      _ ≤ (m + 1) * base * base ^ cs.length := Nat.mul_le_mul_right _ (hf m c next hnext)
      _ = (m + 1) * base ^ (c :: cs).length := by
        rw [List.length_cons, Nat.pow_succ', Nat.mul_assoc]

/-- So many digits stand for no greater number. -/
theorem numberInBase?_lt {base n : Nat} {cs : List Char} (h : numberInBase? base cs = some n) :
    n < base ^ cs.length := by
  -- Each digit multiplies what was read by the base and adds less than the base.
  have hlt : n < (0 + 1) * base ^ cs.length := by
    refine lt_of_foldlM (fun m c next hnext => ?_) h
    split at hnext
    next d _ =>
      split at hnext
      next hd =>
        cases hnext
        rw [Nat.succ_mul]
        omega
      next => cases hnext
    next => cases hnext
  rwa [Nat.zero_add, Nat.one_mul] at hlt

/-! ## Version four -/

/-- Bytes at their places add less than there is room for. -/
theorem foldl_zipIdx_le {bytes : List Nat} (hbytes : ∀ b ∈ bytes, b ≤ 255) :
    ∀ start last : Nat, start + bytes.length ≤ 4 →
      (bytes.zipIdx start).foldl (fun sum p => sum + p.1 * Nat.pow 256 (3 - p.2)) last +
        Nat.pow 256 (4 - (start + bytes.length)) ≤ last + Nat.pow 256 (4 - start) := by
  -- On the bytes: each leaves room for the next ones, as it is below 256 in its own place.
  induction bytes with
  | nil => exact fun _ _ _ => Nat.le_refl _
  | cons b bytes ih =>
    intro start last hroom
    obtain ⟨hb, hrest⟩ := List.forall_mem_cons.mp hbytes
    rw [List.length_cons] at hroom
    have hle := ih hrest (start + 1) (last + b * Nat.pow 256 (3 - start)) (by omega)
    have hmul : b * Nat.pow 256 (3 - start) ≤ 255 * Nat.pow 256 (3 - start) :=
      Nat.mul_le_mul_right _ hb
    have hpow : Nat.pow 256 (4 - start) = Nat.pow 256 (3 - start) * 256 := by
      rw [show 4 - start = (3 - start) + 1 by omega]
      rfl
    have hlength : start + 1 + bytes.length = start + (b :: bytes).length := by
      rw [List.length_cons]
      omega
    have hplace : 4 - (start + 1) = 3 - start := by omega
    rw [hlength, hplace] at hle
    rw [List.zipIdx_cons, List.foldl_cons, hpow]
    dsimp only
    omega

/-- A version four address has four bytes. -/
theorem ipv4OfNumbers?_lt {numbers : List Nat} {n : Nat} (h : ipv4OfNumbers? numbers = some n) :
    n < Nat.pow 256 4 := by
  unfold ipv4OfNumbers? at h
  split at h
  next => cases h
  next last front hreverse =>
    split at h
    next => cases h
    next hbounds =>
      cases h
      simp only [not_or, Nat.not_lt, Nat.not_le, List.any_eq_true, decide_eq_true_eq, not_exists,
        not_and] at hbounds
      obtain ⟨hlength, hbytes, hlast⟩ := hbounds
      have hall : ∀ b ∈ front.reverse, b ≤ 255 := fun b hb => hbytes b (List.mem_reverse.mp hb)
      have hle := foldl_zipIdx_le hall 0 last (by rw [List.length_reverse]; omega)
      rw [Nat.zero_add, List.length_reverse, Nat.sub_zero] at hle
      omega

/-- Four bytes are a version four address. -/
theorem ipv4OfNumbers?_bytes {a b c d : Nat} (ha : a < 256) (hb : b < 256) (hc : c < 256)
    (hd : d < 256) :
    ipv4OfNumbers? [a, b, c, d] =
      some (d + a * Nat.pow 256 3 + b * Nat.pow 256 2 + c * Nat.pow 256 1) := by
  have hone : Nat.pow 256 1 = 256 := rfl
  have hnot : ¬(3 < [c, b, a].length ∨ [c, b, a].any (255 < ·) ∨
      Nat.pow 256 (4 - [c, b, a].length) ≤ d) := by
    simp only [List.length_cons, List.length_nil, Nat.reduceAdd, Nat.reduceSub, hone, List.any_cons,
      List.any_nil, Bool.or_false, Bool.or_eq_true, decide_eq_true_eq]
    omega
  -- The weights stay closed, since multiplication by them must not be opened.
  have hsum : ∀ weight : Nat → Nat, [a, b, c].zipIdx.foldl (fun sum p => sum + p.1 * weight p.2) d =
      d + a * weight 0 + b * weight 1 + c * weight 2 := fun _ => rfl
  exact (if_neg hnot).trans (congrArg some (hsum fun place => Nat.pow 256 (3 - place)))
/-- A byte is read from its decimal digits. -/
theorem ipv4Number?_toDigits : ∀ m < 256, ipv4Number? (Nat.toDigits 10 m) = some m := by
  decide +kernel

/-- The labels of a version four address are its bytes. -/
theorem labels_ipv4Text (n : Nat) : Domain.labels (ipv4Text n).toList =
    [Nat.toDigits 10 (n / 16777216 % 256), Nat.toDigits 10 (n / 65536 % 256),
      Nat.toDigits 10 (n / 256 % 256), Nat.toDigits 10 (n % 256)] := by
  rw [toList_ipv4Text]
  refine Text.splitOnP_intercalate rfl (by simp) fun part hpart c hc => beq_false_of_ne ?_
  have hplain (m : Nat) : ∀ c ∈ Nat.toDigits 10 m, c ≠ '.' :=
    forall_mem_toDigits (by decide) (by decide) m
  simp only [List.mem_cons, List.not_mem_nil, or_false] at hpart
  rcases hpart with rfl | rfl | rfl | rfl <;> exact hplain _ c hc

theorem ipv4Parts_ipv4Text (n : Nat) :
    ipv4Parts (ipv4Text n).toList = Domain.labels (ipv4Text n).toList := by
  rw [ipv4Parts, if_neg]
  rw [labels_ipv4Text]
  simp [Nat.toDigits_ne_nil]

/-- A version four address ends like a number. -/
theorem endsInNumber_ipv4Text (n : Nat) : endsInNumber (ipv4Text n).toList = true := by
  have hlast : (ipv4Parts (ipv4Text n).toList).getLast? = some (Nat.toDigits 10 (n % 256)) := by
    rw [ipv4Parts_ipv4Text, labels_ipv4Text]
    rfl
  have hnumber := ipv4Number?_toDigits (n % 256) (Nat.mod_lt _ (by decide))
  rw [endsInNumber, hlast]
  dsimp only
  rw [hnumber, Option.isSome_some, Bool.or_true]

/-- A version four address is read from its text. -/
theorem ipv4?_ipv4Text {n : Nat} (h : n < Nat.pow 256 4) :
    ipv4? (ipv4Text n).toList = some n := by
  have hbyte (m : Nat) : ipv4Number? (Nat.toDigits 10 (m % 256)) = some (m % 256) :=
    ipv4Number?_toDigits _ (Nat.mod_lt _ (by decide))
  have hlt (m : Nat) : m % 256 < 256 := Nat.mod_lt _ (by decide)
  -- Each of the four numbers is read, and put together they are the number again.
  rw [ipv4?, ipv4Parts_ipv4Text, labels_ipv4Text]
  simp only [List.mapM_cons, List.mapM_nil, hbyte, Option.bind_eq_bind, Option.bind_some,
    Option.pure_def]
  rw [ipv4OfNumbers?_bytes (hlt _) (hlt _) (hlt _) (hlt _)]
  have hone : Nat.pow 256 1 = 256 := by decide
  have htwo : Nat.pow 256 2 = 65536 := by decide
  have hthree : Nat.pow 256 3 = 16777216 := by decide
  have hfour : Nat.pow 256 4 = 4294967296 := by decide
  rw [hfour] at h
  rw [hone, htwo, hthree, Option.some.injEq]
  omega

/-! ## Version six -/

/-- A piece is below two to the sixteenth. -/
theorem piece?_lt {cs : List Char} {n : Nat} (h : piece? cs = some n) : n < 65536 := by
  unfold piece? at h
  split at h
  next => cases h
  next hlength =>
    have hle : 16 ^ cs.length ≤ 16 ^ 4 := Nat.pow_le_pow_right (by decide) (by omega)
    exact Nat.lt_of_lt_of_le (numberInBase?_lt h) hle

/-- Four decimal bytes are two pieces. -/
theorem ipv4Pieces?_lt {cs : List Char} {pieces : List Nat} (h : ipv4Pieces? cs = some pieces) :
    ∀ piece ∈ pieces, piece < 65536 := by
  have hbyte : ∀ {cs : List Char} {n : Nat}, byte? cs = some n → n ≤ 255 := by
    intro cs n h
    unfold byte? at h
    split at h
    next => cases h
    next =>
      cases h
      decide
    next => cases h
    next => exact of_decide_eq_true (Option.filter_eq_some_iff.mp h).2
  unfold ipv4Pieces? at h
  split at h
  -- Four bytes make two pieces, each of 16 bits.
  next a b c d hbytes =>
    cases h
    have hall : ∀ n ∈ [a, b, c, d], n ≤ 255 := fun n hn => by
      obtain ⟨cs, -, hcs⟩ := Domain.exists_mem_of_mapM hbytes n hn
      exact hbyte hcs
    simp only [List.mem_cons, List.not_mem_nil, or_false, forall_eq_or_imp, forall_eq] at hall ⊢
    omega
  next => cases h

theorem pieces?_lt {allowsIpv4 : Bool} {parts : List (List Char)} {pieces : List Nat}
    (h : pieces? allowsIpv4 parts = some pieces) : ∀ piece ∈ pieces, piece < 65536 := by
  -- The last part may be an IPv4 address; every other one is a piece.
  induction parts generalizing pieces with
  | nil =>
    cases h
    simp
  | cons part more ih =>
    cases more with
    | nil =>
      rw [pieces?] at h
      split at h
      next => exact ipv4Pieces?_lt h
      next =>
        obtain ⟨piece, hpiece, rfl⟩ := Option.map_eq_some_iff.mp h
        intro other hother
        exact List.mem_singleton.mp hother ▸ piece?_lt hpiece
    | cons next more =>
      simp only [pieces?, Option.bind_eq_bind, Option.pure_def, Option.bind_eq_some_iff,
        Option.some.injEq] at h
      obtain ⟨piece, hpiece, rest, hrest, rfl⟩ := h
      exact List.forall_mem_cons.mpr ⟨piece?_lt hpiece, ih hrest⟩

theorem piecesOf?_lt {allowsIpv4 : Bool} {cs : List Char} {pieces : List Nat}
    (h : piecesOf? allowsIpv4 cs = some pieces) : ∀ piece ∈ pieces, piece < 65536 := by
  unfold piecesOf? at h
  split at h
  next =>
    cases h
    simp
  next => exact pieces?_lt h

/-- A version six address has eight pieces of sixteen bits. -/
structure IsIpv6 (pieces : List Nat) : Prop where
  length : pieces.length = 8
  lt : ∀ piece ∈ pieces, piece < 65536

theorem isIpv6_of_ipv6? {cs : List Char} {pieces : List Nat} (h : ipv6? cs = some pieces) :
    IsIpv6 pieces := by
  unfold ipv6? at h
  split at h
  -- Without a gap there have to be eight pieces; with one, zeros are put in until there are.
  next =>
    obtain ⟨hpieces, hlength⟩ := Option.filter_eq_some_iff.mp h
    exact ⟨of_decide_eq_true hlength, piecesOf?_lt hpieces⟩
  next left right _ =>
    simp only [Option.bind_eq_bind, Option.pure_def, Option.bind_eq_some_iff] at h
    obtain ⟨front, hfront, back, hback, h⟩ := h
    split at h
    next => simp at h
    next hroom =>
      cases h
      refine ⟨by simp only [List.length_append, List.length_replicate]; omega, ?_⟩
      intro piece hpiece
      simp only [List.mem_append, List.mem_replicate] at hpiece
      rcases hpiece with (hpiece | ⟨-, rfl⟩) | hpiece
      · exact piecesOf?_lt hfront piece hpiece
      · decide
      · exact piecesOf?_lt hback piece hpiece

/-! ### Pieces -/

section

variable {pieces : List Nat}

/-- A piece is read from its hexadecimal digits. -/
theorem piece?_toDigits {n : Nat} (h : n < 65536) : piece? (Nat.toDigits 16 n) = some n := by
  have hlength : (Nat.toDigits 16 n).length ≤ 4 :=
    (Nat.length_toDigits_le_iff (by decide) (by decide)).mpr h
  rw [piece?, if_neg (by simp [Nat.toDigits_ne_nil]; omega)]
  exact numberInBase?_toDigits (by decide) (by decide) n

/-- Hexadecimal digits are no points and no colons. -/
theorem not_mem_toDigits_sixteen (n : Nat) :
    '.' ∉ Nat.toDigits 16 n ∧ ':' ∉ Nat.toDigits 16 n := by
  have hplain : ∀ c ∈ Nat.toDigits 16 n, c ≠ '.' ∧ c ≠ ':' :=
    forall_mem_toDigits (by decide) (by decide) n
  exact ⟨fun hmem => (hplain _ hmem).1 rfl, fun hmem => (hplain _ hmem).2 rfl⟩

theorem pieces?_map_toDigits {allowsIpv4 : Bool} (h : ∀ piece ∈ pieces, piece < 65536) :
    pieces? allowsIpv4 (pieces.map (Nat.toDigits 16)) = some pieces := by
  -- The last piece is treated apart, since only it may be an IPv4 address.
  induction pieces with
  | nil => rfl
  | cons piece rest ih =>
    obtain ⟨hpiece, hrest⟩ := List.forall_mem_cons.mp h
    cases rest with
    | nil =>
      have hpoint : (Nat.toDigits 16 piece).contains '.' = false := by
        simpa using (not_mem_toDigits_sixteen piece).1
      rw [List.map_cons, List.map_nil, pieces?, hpoint, if_neg (by simp), piece?_toDigits hpiece]
      rfl
    | cons next rest =>
      have hmore := ih hrest
      rw [List.map_cons] at hmore ⊢
      rw [List.map_cons, pieces?, piece?_toDigits hpiece, hmore]
      · rfl
      · simp

/-- Pieces are read from their text. -/
theorem piecesOf?_pieceText {allowsIpv4 : Bool} (h : ∀ piece ∈ pieces, piece < 65536) :
    piecesOf? allowsIpv4 (pieceText pieces).toList = some pieces := by
  rw [toList_pieceText]
  cases pieces with
  | nil => rfl
  | cons piece rest =>
    -- A digit is no colon, so the text is split where the pieces meet.
    have hparts :
        ([':'].intercalate ((piece :: rest).map (Nat.toDigits 16))).splitOnP (· == ':') =
          (piece :: rest).map (Nat.toDigits 16) := by
      refine Text.splitOnP_intercalate rfl (by simp) fun part hpart c hc => beq_false_of_ne ?_
      obtain ⟨n, -, rfl⟩ := List.mem_map.mp hpart
      exact fun heq => (not_mem_toDigits_sixteen n).2 (heq ▸ hc)
    rw [piecesOf?, hparts, pieces?_map_toDigits h, if_neg]
    cases rest with
    | nil => simp [List.intercalate_singleton, Nat.toDigits_ne_nil]
    | cons next rest => simp [List.intercalate_cons_cons]

/-! ### The gap -/

/-- No double colon begins in characters that are no colons. -/
theorem splitGap_append {front : List Char} (h : ':' ∉ front) (rest : List Char) :
    splitGap (front ++ rest) = (splitGap rest).map fun p => (front ++ p.1, p.2) := by
  induction front with
  | nil => simp
  | cons c front ih =>
    rw [List.mem_cons, not_or] at h
    rw [List.cons_append, splitGap, ih h.2, Option.map_map]
    · rfl
    · exact fun _ hcolon _ => h.1 hcolon.symm

/-- No double colon begins with a single colon. -/
theorem splitGap_colon {c : Char} (h : c ≠ ':') (rest : List Char) :
    splitGap (':' :: c :: rest) = (splitGap (c :: rest)).map fun p => (':' :: p.1, p.2) := by
  rw [splitGap]
  rintro more - hcons
  exact h (List.cons.inj hcons).1

theorem splitGap_gap (rest : List Char) : splitGap (':' :: ':' :: rest) = some ([], rest) := by
  rw [splitGap]

/-- The gap is after the pieces before it. -/
theorem splitGap_pieceText (pieces : List Nat) (rest : List Char) :
    splitGap ((pieceText pieces).toList ++ rest) =
      (splitGap rest).map fun p => ((pieceText pieces).toList ++ p.1, p.2) := by
  simp only [toList_pieceText]
  -- On the pieces: none of them has a colon, so the gap is where it is in the rest.
  induction pieces with
  | nil => simp
  | cons piece more ih =>
    have hpiece := (not_mem_toDigits_sixteen piece).2
    cases more with
    | nil =>
      rw [List.map_cons, List.map_nil, List.intercalate_singleton]
      exact splitGap_append hpiece rest
    | cons next more =>
      -- The next piece begins with a digit, so no second colon follows the one before it.
      obtain ⟨c, digits, hdigits⟩ :=
        List.exists_cons_of_ne_nil (Nat.toDigits_ne_nil (n := next) (b := 16))
      have hc : c ≠ ':' := fun heq =>
        (not_mem_toDigits_sixteen next).2 (by rw [hdigits, heq]; exact List.mem_cons_self)
      have hnext : ∃ after, [':'].intercalate ((next :: more).map (Nat.toDigits 16)) =
          c :: after := by
        cases more with
        | nil =>
          exact ⟨digits, by rw [List.map_cons, List.map_nil, List.intercalate_singleton, hdigits]⟩
        | cons other more =>
          exact ⟨_, by rw [List.map_cons, List.map_cons, List.intercalate_cons_cons, hdigits]; rfl⟩
      obtain ⟨after, hafter⟩ := hnext
      rw [List.map_cons, List.map_cons, List.intercalate_cons_cons, ← List.map_cons, hafter]
      rw [hafter] at ih
      rw [List.append_assoc, List.append_assoc, splitGap_append hpiece, List.singleton_append,
        List.cons_append, splitGap_colon hc, ← List.cons_append, ih, Option.map_map, Option.map_map]
      simp [Function.comp_def]

/-! ### Runs of zeros -/

/-- What a run of zeros is made of. -/
theorem take_of_le_zeroRun {run : Nat} (h : run ≤ zeroRun pieces) :
    pieces.take run = List.replicate run 0 := by
  -- As long as there are zeros left in the run, the pieces begin with one.
  induction pieces generalizing run with
  | nil =>
    cases Nat.le_zero.mp h
    rfl
  | cons piece rest ih =>
    cases run with
    | zero => rfl
    | succ run =>
      unfold zeroRun at h ih
      rw [List.takeWhile_cons] at h
      split at h
      next hzero =>
        rw [List.take_succ_cons, ih (Nat.le_of_succ_le_succ h), List.replicate_succ,
          beq_iff_eq.mp hzero]
      next => exact absurd h (Nat.not_succ_le_zero run)

theorem zeroRun_le (pieces : List Nat) : zeroRun pieces ≤ pieces.length :=
  (List.takeWhile_prefix _).length_le

/-- The longest run of zeros is one. -/
theorem longestZeros_le (pieces : List Nat) :
    (longestZeros pieces).2 ≤ zeroRun (pieces.drop (longestZeros pieces).1) := by
  unfold longestZeros
  generalize List.range pieces.length = starts
  -- Whatever is the best run so far is a run of zeros, which the loop keeps.
  have hfold : ∀ best : Nat × Nat, best.2 ≤ zeroRun (pieces.drop best.1) →
      let found := starts.foldl (fun best start =>
        let run := zeroRun (pieces.drop start)
        if best.2 < run then (start, run) else best) best
      found.2 ≤ zeroRun (pieces.drop found.1) := by
    induction starts with
    | nil => exact fun best h => h
    | cons start starts ih =>
      intro best h
      refine ih _ ?_
      dsimp only
      split
      next => exact Nat.le_refl _
      next => exact h
  exact hfold (0, 0) (Nat.zero_le _)

/-- A version six address is read from its text. -/
theorem ipv6?_ipv6Text (h : IsIpv6 pieces) : ipv6? (ipv6Text pieces).toList = some pieces := by
  have hrun := longestZeros_le pieces
  unfold ipv6Text
  split
  next start run hlongest =>
  rw [hlongest] at hrun
  dsimp only at hrun
  split
  next =>
    -- No zeros are left out, and there is no gap.
    have hgap := splitGap_pieceText pieces []
    rw [List.append_nil] at hgap
    rw [ipv6?, hgap]
    dsimp only [splitGap, Option.map_none]
    rw [piecesOf?_pieceText h.lt]
    exact Option.filter_some_pos (decide_eq_true h.length)
  next hlong =>
    -- As many zeros are put into the gap as are missing of the eight pieces.
    have hlength := zeroRun_le (pieces.drop start)
    rw [List.length_drop, h.length] at hlength
    have hgap := splitGap_pieceText (pieces.take start)
      (':' :: ':' :: (pieceText (pieces.drop (start + run))).toList)
    rw [splitGap_gap, Option.map_some, List.append_nil] at hgap
    have hcolons : "::".toList = [':', ':'] := by decide
    have hfront : (pieces.take start).length = start := by
      rw [List.length_take, h.length]
      omega
    have hback : (pieces.drop (start + run)).length = 8 - (start + run) := by
      rw [List.length_drop, h.length]
    rw [String.toList_append, String.toList_append, hcolons, List.append_assoc, List.cons_append,
      List.singleton_append, ipv6?, hgap]
    dsimp only
    rw [piecesOf?_pieceText fun piece hpiece => h.lt piece (List.mem_of_mem_take hpiece),
      piecesOf?_pieceText fun piece hpiece => h.lt piece (List.mem_of_mem_drop hpiece)]
    simp only [Option.bind_eq_bind, Option.bind_some, Option.pure_def]
    rw [hfront, hback, if_neg (by omega)]
    have hzeros : 8 - start - (8 - (start + run)) = run := by omega
    rw [hzeros, ← take_of_le_zeroRun hrun, List.append_assoc, ← List.drop_drop,
      List.take_append_drop, List.take_append_drop]

end

end BearerCache.Url
