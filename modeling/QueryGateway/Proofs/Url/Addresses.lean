import QueryGateway.Proofs.Text.Numerals
import QueryGateway.Proofs.Text.Splits
import QueryGateway.Url.Host

/-!
# Addresses

The usual text of an address reads back as the address. In version 6 the text leaves out the
longest row of zeros, and the reader fills the gap with as many as are missing.
-/

namespace QueryGateway.Url

open Text

/-! ## Version 4 -/

theorem toList_address4Text (n : Nat) :
    (address4Text n).toList =
      List.intercalate ['.'] ([n / 16777216, n / 65536 % 256, n / 256 % 256, n % 256].map (Nat.toDigits 10)) := by
  have digits : ∀ k : Nat, (toString k).toList = Nat.toDigits 10 k := fun k => Nat.toList_repr
  unfold address4Text join
  rw [String.toList_intercalate, List.map_map]
  exact congrArg (List.intercalate ['.']) (List.map_congr_left fun k _ => digits k)

/-- A number without zeros in front is decimal. -/
theorem number4?_toDigits (n : Nat) : number4? (Nat.toDigits 10 n) = some n := by
  have decimal := decimal?_toDigits n
  have front := head_toDigits n
  have length : n = 0 → Nat.toDigits 10 n = ['0'] := by
    rintro rfl
    rfl
  unfold number4?
  split
  · next empty => exact absurd empty Nat.toDigits_ne_nil
  · next h =>
    rw [h] at front length
    cases length (front rfl)
  · next h =>
    rw [h] at front length
    cases length (front rfl)
  · next h =>
    rw [h] at front length
    cases length (front rfl)
  · exact decimal

/-- The digits of numbers with dots between them are the parts of a domain. -/
theorem domainParts_digits (n : Nat) (ns : List Nat) :
    domainParts (List.intercalate ['.'] ((n :: ns).map (Nat.toDigits 10))) = (n :: ns).map (Nat.toDigits 10) := by
  have free : ∀ p ∈ (n :: ns).map (Nat.toDigits 10), '.' ∉ p := by
    intro p hp hdot
    obtain ⟨k, -, rfl⟩ := List.mem_map.1 hp
    exact absurd (isDigit_of_mem_toDigits hdot) (by decide)
  unfold domainParts
  rw [List.map_cons, splitAll_intercalate free]
  dsimp only
  split
  · next h =>
    have last : [] ∈ ((n :: ns).map (Nat.toDigits 10)).reverse := by
      rw [List.map_cons, h]
      exact List.mem_cons_self
    obtain ⟨k, -, hk⟩ := List.mem_map.1 (List.mem_reverse.1 last)
    exact absurd hk Nat.toDigits_ne_nil
  · rfl

theorem endsInNumber_address4Text (n : Nat) : endsInNumber (address4Text n).toList = true := by
  have digits : (Nat.toDigits 10 (n % 256)).all isDigit = true :=
    List.all_eq_true.2 fun c hc => isDigit_of_mem_toDigits hc
  have nonempty : (Nat.toDigits 10 (n % 256)).isEmpty = false := by
    simp [Nat.toDigits_ne_nil]
  rw [toList_address4Text]
  unfold endsInNumber
  rw [domainParts_digits]
  show (!(Nat.toDigits 10 (n % 256)).isEmpty && (Nat.toDigits 10 (n % 256)).all isDigit || _) = true
  rw [nonempty, digits]
  rfl

/-- The text of an address of version 4 reads back. -/
theorem address4?_address4Text {n : Nat} (h : n < 4294967296) : address4? (address4Text n).toList = some n := by
  have numbers : ∀ ns : List Nat, (ns.map (Nat.toDigits 10)).mapM number4? = some ns := by
    intro ns
    induction ns with
    | nil => rfl
    | cons k ns ih =>
      rw [List.map_cons, List.mapM_cons, number4?_toDigits, ih]
      rfl
  have bounds : n / 16777216 ≤ 255 ∧ n / 65536 % 256 ≤ 255 ∧ n / 256 % 256 ≤ 255 ∧ n % 256 < 256 := by omega
  rw [toList_address4Text]
  unfold address4?
  rw [domainParts_digits, numbers]
  simp [bounds]
  omega

/-- Bytes one after the other make a number of as many bytes. -/
theorem foldl_bytes_lt {bytes : List Nat} (h : ∀ b ∈ bytes, b ≤ 255) (high : Nat) :
    bytes.foldl (fun n b => n * 256 + b) high < (high + 1) * 256 ^ bytes.length := by
  induction bytes generalizing high with
  | nil => simp
  | cons b bytes ih =>
    have hb : b ≤ 255 := h b List.mem_cons_self
    have rest := ih (fun d hd => h d (List.mem_cons_of_mem b hd)) (high * 256 + b)
    have next : high * 256 + b + 1 ≤ (high + 1) * 256 := by omega
    rw [List.foldl_cons, List.length_cons, Nat.pow_succ, Nat.mul_comm (256 ^ bytes.length) 256, ← Nat.mul_assoc]
    exact Nat.lt_of_lt_of_le rest (Nat.mul_le_mul_right _ next)

/-- An address of version 4 has four bytes. -/
theorem address4?_lt {cs : List Char} {n : Nat} (h : address4? cs = some n) : n < 4294967296 := by
  unfold address4? at h
  obtain ⟨numbers, -, h⟩ := Option.bind_eq_some_iff.1 h
  obtain ⟨last, -, h⟩ := Option.bind_eq_some_iff.1 h
  dsimp only at h
  split at h
  · next fits =>
    simp only [Bool.and_eq_true, decide_eq_true_eq, List.all_eq_true] at fits
    obtain ⟨⟨short, bytes⟩, small⟩ := fits
    have high := foldl_bytes_lt bytes 0
    have power : 256 ^ numbers.dropLast.length * 256 ^ (4 - numbers.dropLast.length) = 4294967296 := by
      have : numbers.dropLast.length ≤ 4 := by simp; omega
      rw [← Nat.pow_add, Nat.add_sub_cancel' this]
    cases h
    rw [Nat.zero_add, Nat.one_mul] at high
    have step : (numbers.dropLast.foldl (fun n b => n * 256 + b) 0 + 1) * 256 ^ (4 - numbers.dropLast.length) ≤
        4294967296 := by
      rw [← power]
      exact Nat.mul_le_mul_right _ high
    rw [Nat.add_mul, Nat.one_mul] at step
    have small : last < 256 ^ (4 - numbers.dropLast.length) := small
    exact Nat.lt_of_lt_of_le (Nat.add_lt_add_left small _) step
  · cases h

/-! ## Groups -/

/-- The digits of groups with colons between them. -/
theorem toList_groupsText (ns : List Nat) :
    (groupsText ns).toList = List.intercalate [':'] (ns.map (Nat.toDigits 16)) := by
  have digits : ∀ n, (hexText false n).toList = Nat.toDigits 16 n := fun n => by simp [hexText]
  unfold groupsText join
  rw [String.toList_intercalate, List.map_map]
  exact congrArg (List.intercalate [':']) (List.map_congr_left fun n _ => digits n)

theorem colon_not_mem_toDigits (n : Nat) : ':' ∉ Nat.toDigits 16 n :=
  fun h => absurd (isHexDigit_of_mem_toDigits h) (by decide)

/-- Groups are written with nothing but digits and colons. -/
theorem mem_groupsText {ns : List Nat} {c : Char} (h : c ∈ (groupsText ns).toList) :
    isHexDigit c = true ∨ c = ':' := by
  rw [toList_groupsText] at h
  rcases mem_intercalate h with colon | ⟨part, hpart, hc⟩
  · exact .inr colon
  · obtain ⟨n, -, rfl⟩ := List.mem_map.1 hpart
    exact .inl (isHexDigit_of_mem_toDigits hc)

theorem no_dot_groupsText (ns : List Nat) : (groupsText ns).toList.contains '.' = false := by
  rw [List.contains_eq_mem, decide_eq_false_iff_not]
  intro h
  rcases mem_groupsText h with h | h <;> exact absurd h (by decide)

theorem group?_toDigits {n : Nat} (h : n < 65536) : group? (Nat.toDigits 16 n) = some n := by
  have short : (Nat.toDigits 16 n).length ≤ 4 := (Nat.length_toDigits_le_iff (by decide) (by decide)).2 h
  rw [group?, if_pos short, hexadecimal?_toDigits]

theorem groups?_toDigits {ns : List Nat} (h : ∀ n ∈ ns, n < 65536) :
    groups? (ns.map (Nat.toDigits 16)) = some ns := by
  induction ns with
  | nil => rfl
  | cons n ns ih =>
    have first := group?_toDigits (h n List.mem_cons_self)
    have rest := ih fun m hm => h m (List.mem_cons_of_mem n hm)
    cases ns with
    | nil =>
      have undotted : (Nat.toDigits 16 n).contains '.' = false := by
        rw [List.contains_eq_mem, decide_eq_false_iff_not]
        exact fun hdot => absurd (isHexDigit_of_mem_toDigits hdot) (by decide)
      rw [List.map_singleton, groups?, undotted, first]
      rfl
    | cons m ns =>
      rw [List.map_cons, groups?, first, rest]
      · rfl
      · exact List.cons_ne_nil _ _

/-- Groups read back. -/
theorem groupRun?_groupsText {ns : List Nat} (h : ∀ n ∈ ns, n < 65536) :
    groupRun? (groupsText ns).toList = some ns := by
  rw [toList_groupsText]
  cases ns with
  | nil => rfl
  | cons n ns =>
    have free : ∀ p ∈ (n :: ns).map (Nat.toDigits 16), ':' ∉ p := by
      intro p hp
      obtain ⟨k, -, rfl⟩ := List.mem_map.1 hp
      exact colon_not_mem_toDigits k
    have parts : splitAll ':' (List.intercalate [':'] ((n :: ns).map (Nat.toDigits 16))) =
        (n :: ns).map (Nat.toDigits 16) := splitAll_intercalate free
    have nonempty : List.intercalate [':'] ((n :: ns).map (Nat.toDigits 16)) ≠ [] := by
      intro empty
      rw [empty] at parts
      exact Nat.toDigits_ne_nil (List.cons.inj parts).1.symm
    rw [groupRun?, if_neg (by simpa using nonempty), parts, groups?_toDigits h]

/-- What is read as a group has sixteen bits. -/
theorem group?_lt {cs : List Char} {n : Nat} (h : group? cs = some n) : n < 65536 := by
  unfold group? at h
  split at h
  · next short =>
    cases cs with
    | nil => cases h
    | cons c cs =>
      have bound := numeralFrom_lt_pow hexDigit?_lt h
      have : 16 ^ (c :: cs).length ≤ 16 ^ 4 := Nat.pow_le_pow_right (by decide) short
      omega
  · cases h

theorem dottedPart?_le {cs : List Char} {n : Nat} (h : dottedPart? cs = some n) : n ≤ 255 := by
  unfold dottedPart? at h
  split at h
  · cases h
  · obtain ⟨k, -, h⟩ := Option.bind_eq_some_iff.1 h
    split at h
    · next fits =>
      cases h
      simp only [Bool.and_eq_true, decide_eq_true_eq] at fits
      exact fits.2
    · cases h

theorem dottedGroups?_lt {cs : List Char} {ns : List Nat} (h : dottedGroups? cs = some ns) :
    ∀ n ∈ ns, n < 65536 := by
  unfold dottedGroups? at h
  split at h
  · next a b c d parts =>
    have small : ∀ k, some k ∈ [some a, some b, some c, some d] → k ≤ 255 := by
      intro k hk
      rw [← parts] at hk
      obtain ⟨part, -, hpart⟩ := List.mem_map.1 hk
      exact dottedPart?_le hpart
    have ha := small a (by simp)
    have hb := small b (by simp)
    have hc := small c (by simp)
    have hd := small d (by simp)
    cases h
    intro n hn
    simp only [List.mem_cons, List.not_mem_nil, or_false] at hn
    omega
  · cases h

theorem groups?_lt {parts : List (List Char)} {ns : List Nat} (h : groups? parts = some ns) :
    ∀ n ∈ ns, n < 65536 := by
  induction parts using groups?.induct generalizing ns with
  | case1 =>
    cases h
    exact nofun
  | case2 last dotted =>
    rw [groups?, if_pos dotted] at h
    exact dottedGroups?_lt h
  | case3 last undotted =>
    rw [groups?, if_neg undotted] at h
    obtain ⟨n, hn, rfl⟩ := Option.map_eq_some_iff.1 h
    intro m hm
    rw [List.mem_singleton.1 hm]
    exact group?_lt hn
  | case4 g gs more ih =>
    rw [groups?] at h
    · obtain ⟨n, hn, h⟩ := Option.bind_eq_some_iff.1 h
      obtain ⟨ms, hms, h⟩ := Option.bind_eq_some_iff.1 h
      cases h
      intro m hm
      rcases List.mem_cons.1 hm with rfl | hm
      · exact group?_lt hn
      · exact ih hms m hm
    · exact more

theorem groupRun?_lt {cs : List Char} {ns : List Nat} (h : groupRun? cs = some ns) : ∀ n ∈ ns, n < 65536 := by
  unfold groupRun? at h
  split at h
  · cases h
    exact nofun
  · exact groups?_lt h

/-! ## The gap -/

theorem splitGap_cons {c : Char} {cs : List Char} (h : c = ':' → cs.head? ≠ some ':') :
    splitGap (c :: cs) = (splitGap cs).map fun (before, after) => (c :: before, after) := by
  rw [splitGap]
  rintro ds rfl rfl
  exact h rfl rfl

theorem splitGap_append {ds : List Char} (h : ':' ∉ ds) (cs : List Char) :
    splitGap (ds ++ cs) = (splitGap cs).map fun (before, after) => (ds ++ before, after) := by
  induction ds with
  | nil => simp
  | cons d ds ih =>
    obtain ⟨hd, h⟩ := not_or.1 (mt List.mem_cons.2 h)
    rw [List.cons_append, splitGap_cons fun colon => absurd colon.symm hd, ih h, Option.map_map]
    rfl

/-- There is no gap within groups. -/
theorem splitGap_groupsText (ns : List Nat) (cs : List Char) :
    splitGap ((groupsText ns).toList ++ cs) =
      (splitGap cs).map fun (before, after) => ((groupsText ns).toList ++ before, after) := by
  rw [toList_groupsText]
  induction ns with
  | nil => simp
  | cons n ns ih =>
    cases ns with
    | nil =>
      rw [List.map_singleton, List.intercalate_singleton]
      exact splitGap_append (colon_not_mem_toDigits n) cs
    | cons m ns =>
      rw [List.map_cons] at ih
      have single : ((List.intercalate [':'] (Nat.toDigits 16 m :: ns.map (Nat.toDigits 16))) ++ cs).head? ≠
          some ':' := by
        cases hdigits : Nat.toDigits 16 m with
        | nil => exact absurd hdigits Nat.toDigits_ne_nil
        | cons d ds =>
          have hd : d ∈ Nat.toDigits 16 m := by rw [hdigits]; exact List.mem_cons_self
          cases ns with
          | nil =>
            rintro head
            rw [List.map_nil, List.intercalate_singleton] at head
            exact colon_not_mem_toDigits m ((Option.some.inj head : d = ':') ▸ hd)
          | cons k ns =>
            intro head
            rw [List.map_cons, List.intercalate_cons_cons] at head
            exact colon_not_mem_toDigits m ((Option.some.inj head : d = ':') ▸ hd)
      rw [List.map_cons, List.map_cons, List.intercalate_cons_cons, List.append_assoc, List.append_assoc,
        splitGap_append (colon_not_mem_toDigits n), List.singleton_append, splitGap_cons fun _ => single, ih,
        Option.map_map, Option.map_map]
      simp [Function.comp_def]

/-- Where the longest row of zeros is: behind `i` there are zeros, as many as it says. -/
theorem longestRun_spec (i : Nat) (ns : List Nat) :
    (longestRun i ns).2 = 0 ∨
      ∃ k, (longestRun i ns).1 = i + k ∧
        ns.drop k = List.replicate (longestRun i ns).2 0 ++ ns.drop (k + (longestRun i ns).2) := by
  induction ns generalizing i with
  | nil => exact .inl rfl
  | cons n ns ih =>
    have here : n :: ns = List.replicate (zeroRun (n :: ns)) 0 ++ (n :: ns).drop (zeroRun (n :: ns)) := by
      have zeros : (n :: ns).takeWhile (· == 0) = List.replicate (zeroRun (n :: ns)) 0 :=
        List.eq_replicate_iff.2 ⟨rfl, fun m hm => by simpa using List.mem_takeWhile_imp hm⟩
      have front : (n :: ns).take (zeroRun (n :: ns)) = (n :: ns).takeWhile (· == 0) :=
        (List.prefix_iff_eq_take.1 (List.takeWhile_prefix _)).symm
      rw [← zeros, ← front, List.take_append_drop]
    rw [longestRun]
    split
    · exact .inr ⟨0, rfl, by rw [Nat.zero_add]; exact here⟩
    · rcases ih (i + 1) with none | ⟨k, start, zeros⟩
      · exact .inl none
      · refine .inr ⟨k + 1, by omega, ?_⟩
        rw [List.drop_succ_cons, Nat.add_right_comm, List.drop_succ_cons]
        exact zeros

/-! ## Version 6 -/

/-- Eight groups of sixteen bits. -/
def IsAddress6 (ns : List Nat) : Prop := ns.length = 8 ∧ ∀ n ∈ ns, n < 65536

/-- What stands between the brackets of an address. -/
theorem address6Text_inside (ns : List Nat) :
    ∃ inside, (address6Text ns).toList = '[' :: (inside ++ [']']) ∧
      (∀ c ∈ inside, isHexDigit c = true ∨ c = ':') ∧ (IsAddress6 ns → address6? inside = some ns) := by
  unfold address6Text
  rcases hrun : longestRun 0 ns with ⟨start, length⟩
  have spec := longestRun_spec 0 ns
  rw [hrun] at spec
  dsimp only at spec ⊢
  split
  · refine ⟨(groupsText ns).toList, by simp, fun c hc => mem_groupsText hc, fun h => ?_⟩
    have noGap := splitGap_groupsText ns []
    rw [List.append_nil] at noGap
    rw [address6?, noGap]
    show (groupRun? (groupsText ns).toList).bind _ = _
    rw [groupRun?_groupsText h.2, Option.bind_some, h.1]
    rfl
  · next long =>
    refine ⟨(groupsText (ns.take start)).toList ++ ':' :: ':' :: (groupsText (ns.drop (start + length))).toList,
      by simp, fun c hc => ?_, fun h => ?_⟩
    · rcases List.mem_append.1 hc with hc | hc
      · exact mem_groupsText hc
      · rcases List.mem_cons.1 hc with rfl | hc
        · exact .inr rfl
        · rcases List.mem_cons.1 hc with rfl | hc
          · exact .inr rfl
          · exact mem_groupsText hc
    · rcases spec with none | ⟨k, rfl, zeros⟩
      · omega
      · rw [Nat.zero_add] at *
        have split : ns = ns.take k ++ (List.replicate length 0 ++ ns.drop (k + length)) := by
          rw [← zeros, List.take_append_drop]
        have total := congrArg List.length split
        rw [List.length_append, List.length_append, List.length_replicate, h.1] at total
        have front : groupRun? (groupsText (ns.take k)).toList = some (ns.take k) :=
          groupRun?_groupsText fun n hn => h.2 n (List.mem_of_mem_take hn)
        have back : groupRun? (groupsText (ns.drop (k + length))).toList = some (ns.drop (k + length)) :=
          groupRun?_groupsText fun n hn => h.2 n (List.mem_of_mem_drop hn)
        have missing : 8 - (ns.take k).length - (ns.drop (k + length)).length = length := by omega
        rw [address6?, splitGap_groupsText]
        simp only [splitGap, Option.map_some, List.append_nil, no_dot_groupsText, Bool.false_eq_true, if_false,
          front, back, Option.bind_eq_bind, Option.bind_some]
        rw [if_pos (by omega), missing, List.append_assoc, ← split]

/-- What is read as an address has eight groups. -/
theorem isAddress6_of_address6? {cs : List Char} {ns : List Nat} (h : address6? cs = some ns) : IsAddress6 ns := by
  unfold address6? at h
  split at h
  · next before after _ =>
    dsimp only at h
    split at h
    · cases h
    · obtain ⟨head, hhead, h⟩ := Option.bind_eq_some_iff.1 h
      obtain ⟨tail, htail, h⟩ := Option.bind_eq_some_iff.1 h
      split at h
      · next fits =>
        cases h
        refine ⟨by simp; omega, fun n hn => ?_⟩
        rcases List.mem_append.1 hn with hn | hn
        · rcases List.mem_append.1 hn with hn | hn
          · exact groupRun?_lt hhead n hn
          · rw [List.eq_of_mem_replicate hn]
            decide
        · exact groupRun?_lt htail n hn
      · cases h
  · obtain ⟨all, hall, h⟩ := Option.bind_eq_some_iff.1 h
    split at h
    · next eight =>
      cases h
      exact ⟨by simpa using eight, groupRun?_lt hall⟩
    · cases h

end QueryGateway.Url
