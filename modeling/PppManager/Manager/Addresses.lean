import PppManager.Manager.Ipc

/-!
# Reading addresses

What `PppMgr_DmlSetIp4Param` makes of a text: the first four nonempty parts between the dots, each
read by `atoi` and cut to a byte, and a failure only where there is a fifth
(`dmlSetIp4Param_eq`).  So it accepts dotted quads only where it is given nothing else with fewer
than five parts (`acceptsExactlyQuads_iff`).
-/

namespace PppManager

open CText

/-- A decimal number of one byte. -/
structure IsOctet (v : CStr) (x : BitVec 8) : Prop where
  ne_nil : v ≠ []
  digits : ∀ c ∈ v, c.isDigit = true
  value : Nat.ofDigitChars 10 v 0 = x.toNat

/-- The text is four decimal numbers in `0..255` between single dots, those of the address. -/
def DottedQuad (s : CStr) (a : AnscIpv4Address) : Prop :=
  ∃ v : Fin 4 → CStr, (∀ j, IsOctet (v j) (a j)) ∧
    s = v 0 ++ '.' :: (v 1 ++ '.' :: (v 2 ++ '.' :: v 3))

/-- The byte `PppMgr_DmlSetIp4Param` stores for a part. -/
def octet (s2 : CStr) : BitVec 8 :=
  BitVec.ofInt 8 (atoi s2)

/-- The bytes of an address that hold `old`, after the first four of the parts are stored. -/
def storeOctets (tokens : List CStr) (old : AnscIpv4Address) : AnscIpv4Address :=
  fun j => (tokens[j.val]?.map octet).getD (old j)

section

variable {s : CStr} {a old : AnscIpv4Address}

/-- The bytes from the position `i` on are those of the parts. -/
theorem dmlSetIp4ParamFrom_eq {tokens : List CStr} {i : ℕ} (hi : i ≤ 4) :
  dmlSetIp4ParamFrom tokens i old =
    (fun j => if j.val < i then old j else (tokens[j.val - i]?.map octet).getD (old j),
      if i + tokens.length ≤ 4 then .success else .failure)
  := by
  induction tokens generalizing i old with
  | nil =>
      rw [dmlSetIp4ParamFrom, List.length_nil, Nat.add_zero, if_pos hi]
      congr 1
      funext j
      split_ifs <;> rfl
  | cons s2 tokens ih =>
      rw [dmlSetIp4ParamFrom, List.length_cons, Nat.add_comm tokens.length, ← Nat.add_assoc]
      by_cases h4 : i = 4
      · rw [if_pos h4, if_neg (by omega)]
        congr 1
        funext j
        rw [if_pos (h4 ▸ j.isLt)]
      · rw [if_neg h4, ih (by omega)]
        congr 1
        funext j
        rcases Nat.lt_trichotomy j.val i with hlt | heq | hgt
        · rw [if_pos (Nat.lt_succ_of_lt hlt), if_pos hlt, if_neg (Nat.ne_of_lt hlt)]
        · have hlt : j.val < i + 1 := by
            omega
          have hge : ¬ j.val < i := by
            omega
          rw [if_pos hlt, if_pos heq, if_neg hge, heq, Nat.sub_self]
          rfl
        · have hsub : j.val - i = j.val - (i + 1) + 1 := by
            omega
          rw [if_neg (Nat.not_lt.mpr hgt), if_neg (Nat.not_lt_of_gt hgt), hsub,
            List.getElem?_cons_succ, if_neg (Nat.ne_of_gt hgt)]

theorem dmlSetIp4Param_eq (s : CStr) (old : AnscIpv4Address) :
  dmlSetIp4Param s old =
    (storeOctets (strtok '.' s) old, if (strtok '.' s).length ≤ 4 then .success else .failure)
  := by
  rw [dmlSetIp4Param, dmlSetIp4ParamFrom_eq (Nat.zero_le 4), Nat.zero_add]
  rfl

/-! ### Dotted quads -/

theorem IsOctet.octet {v : CStr} {x : BitVec 8} (h : IsOctet v x) :
  octet v = x
  := by
  have hlt := x.isLt
  rw [PppManager.octet, atoi_digits h.digits h.ne_nil, h.value]
  · apply BitVec.ofInt_natCast .. |>.trans
    apply BitVec.ofNat_toNat
  · rw [h.value]
    omega

/-- A decimal number has no character that is not a digit. -/
theorem IsOctet.not_mem {v : CStr} {x : BitVec 8} (h : IsOctet v x) {c : Char}
    (hc : c.isDigit = false) :
  c ∉ v
  := by
  intro hmem
  rw [h.digits c hmem] at hc
  cases hc

theorem DottedQuad.strtok (h : DottedQuad s a) :
  ∃ v : Fin 4 → CStr, (∀ j, IsOctet (v j) (a j)) ∧ strtok '.' s = [v 0, v 1, v 2, v 3]
  := by
  obtain ⟨v, hv, rfl⟩ := h
  use v, hv
  have hdot : ∀ j, '.' ∉ v j := fun j => (hv j).not_mem rfl
  rw [strtok_cons (hv 0).ne_nil (hdot 0), strtok_cons (hv 1).ne_nil (hdot 1),
    strtok_cons (hv 2).ne_nil (hdot 2), strtok_eq_singleton (hv 3).ne_nil (hdot 3)]

/-- A dotted quad is stored as its address. -/
theorem dmlSetIp4Param_dottedQuad (h : DottedQuad s a) (old : AnscIpv4Address) :
  dmlSetIp4Param s old = (a, .success)
  := by
  obtain ⟨v, hv, htokens⟩ := h.strtok
  rw [dmlSetIp4Param_eq, htokens]
  congr 1
  funext j
  rw [← (hv j).octet]
  match j with
  | 0 | 1 | 2 | 3 => rfl

/-- `PppMgr_DmlSetIp4Param` succeeds exactly on dotted quads, whose bytes it stores, and changes
nothing where it fails. -/
def AcceptsExactlyQuads (s : CStr) (old : AnscIpv4Address) : Prop :=
  ((dmlSetIp4Param s old).2 = .success ↔ ∃ a, DottedQuad s a) ∧
    (∀ a, DottedQuad s a → (dmlSetIp4Param s old).1 = a) ∧
    ((dmlSetIp4Param s old).2 = .failure → (dmlSetIp4Param s old).1 = old)

/-- What is no dotted quad is accepted, or has its first four parts stored, unless there are at
least five of them and the first four are those that are stored already. -/
theorem acceptsExactlyQuads_iff :
  AcceptsExactlyQuads s old ↔ (∃ a, DottedQuad s a) ∨
    4 < (strtok '.' s).length ∧
      ∀ j : Fin 4, (strtok '.' s)[j.val]?.map octet = some (old j)
  := by
  by_cases hquad : ∃ a, DottedQuad s a
  · apply iff_of_true _ (.inl hquad)
    obtain ⟨a, ha⟩ := hquad
    rw [AcceptsExactlyQuads, dmlSetIp4Param_dottedQuad ha]
    refine ⟨iff_of_true rfl ⟨a, ha⟩, ?_, nofun⟩
    intro a' ha'
    have h := dmlSetIp4Param_dottedQuad ha old
    rw [dmlSetIp4Param_dottedQuad ha' old] at h
    apply (Prod.mk.inj h).1.symm
  · rw [AcceptsExactlyQuads, dmlSetIp4Param_eq, iff_false_right hquad, or_iff_right hquad]
    dsimp only
    by_cases hlen : (strtok '.' s).length ≤ 4
    · rw [if_pos hlen]
      apply iff_of_false
      · rintro ⟨h, -⟩
        apply h rfl
      · rintro ⟨h, -⟩
        omega
    · rw [if_neg hlen]
      constructor
      · rintro ⟨-, -, h⟩
        use Nat.not_le.mp hlen
        intro j
        have hj := congrFun (h rfl) j
        have hlt := Nat.lt_of_lt_of_le j.isLt (Nat.le_of_lt (Nat.not_le.mp hlen))
        rw [storeOctets, List.getElem?_eq_getElem hlt] at hj
        rw [List.getElem?_eq_getElem hlt, Option.map_some, ← hj]
        rfl
      · rintro ⟨-, h⟩
        refine ⟨nofun, fun a ha => absurd ⟨a, ha⟩ hquad, ?_⟩
        intro _
        funext j
        rw [storeOctets, h j]
        rfl

end

/-- A text of three numbers is accepted. -/
theorem three_numbers_accepted :
  ¬ ∀ (s : CStr) (old : AnscIpv4Address), AcceptsExactlyQuads s old
  := by
  intro h
  have haccepted : (dmlSetIp4Param "1.2.3".toList fun _ => 0).2 = .success := by
    decide
  obtain ⟨a, ha⟩ := (h "1.2.3".toList fun _ => 0).1.mp haccepted
  obtain ⟨v, -, htokens⟩ := ha.strtok
  have hlen : 3 = 4 := congrArg List.length htokens
  cases hlen

end PppManager
