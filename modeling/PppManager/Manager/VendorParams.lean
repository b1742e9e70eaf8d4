import Mathlib.Data.List.Infix
import PppManager.CText.Matches
import PppManager.Manager.Ipc

/-!
# Vendor parameters

`PppMgr_DmlSetVendorParams` takes the numbers of `SRU` and `SRD` from the first two matches of a key
and a number in a message, and takes any key that ends in one of these for it.  So it sets them to the
numbers of the last matches with exactly these keys unless a longer key comes after (`setsByKey_iff`).
-/

namespace PppManager

open CText

/-! ### Keys and numbers -/

/-- A key of capital letters and a number of decimal digits. -/
structure KeyNumber where
  key : CStr
  number : CStr
  key_ne : key ≠ []
  key_upper : ∀ c ∈ key, c.isUpper = true
  number_ne : number ≠ []
  number_digits : ∀ c ∈ number, c.isDigit = true

namespace KeyNumber

/-- The text of a key and a number. -/
def text (m : KeyNumber) : CStr :=
  m.key ++ '=' :: m.number

/-- The value of the number. -/
def value (m : KeyNumber) : ℕ :=
  Nat.ofDigitChars 10 m.number 0

end KeyNumber

/-- The language of the regular expression. -/
def IsKeyNumber (w : CStr) : Prop :=
  ∃ m : KeyNumber, w = m.text

section

variable {s w rest : CStr}

theorem matchKeyNumber_text (m : KeyNumber) (rest : CStr) :
  matchKeyNumber (m.text ++ rest) =
    some (m.key ++ '=' :: (m.number ++ rest.takeWhile Char.isDigit), rest.dropWhile Char.isDigit)
  := by
  have hassoc : m.text ++ rest = m.key ++ '=' :: (m.number ++ rest) := by
    rw [KeyNumber.text, List.append_assoc, List.cons_append]
  have hkey : (m.text ++ rest).takeWhile Char.isUpper = m.key := by
    rw [hassoc, List.takeWhile_append_of_pos m.key_upper]
    exact List.append_nil m.key
  have hdrop : (m.text ++ rest).dropWhile Char.isUpper = '=' :: (m.number ++ rest) := by
    rw [hassoc, List.dropWhile_append_of_pos m.key_upper]
    rfl
  have hnumber : m.number ++ rest.takeWhile Char.isDigit ≠ [] :=
    List.append_ne_nil_of_left_ne_nil m.number_ne _
  have htake : (m.number ++ rest).takeWhile Char.isDigit = m.number ++ rest.takeWhile Char.isDigit :=
    List.takeWhile_append_of_pos m.number_digits
  have hrest : (m.number ++ rest).dropWhile Char.isDigit = rest.dropWhile Char.isDigit :=
    List.dropWhile_append_of_pos m.number_digits
  simp only [matchKeyNumber, hkey, hdrop, htake, hrest]
  rw [if_neg (not_or.mpr ⟨m.key_ne, hnumber⟩)]

theorem eq_text_of_matchKeyNumber (h : matchKeyNumber s = some (w, rest)) :
  ∃ m : KeyNumber, w = m.text ∧ s = w ++ rest
  := by
  have hsplit := List.takeWhile_append_dropWhile (p := Char.isUpper) (l := s)
  rw [matchKeyNumber] at h
  dsimp only at h
  split at h
  · rename_i rest' hdrop
    split_ifs at h with hne
    cases h
    have hne := not_or.mp hne
    use
      { key := s.takeWhile Char.isUpper
        number := rest'.takeWhile Char.isDigit
        key_ne := hne.1
        key_upper := fun c hc => List.mem_takeWhile_imp hc
        number_ne := hne.2
        number_digits := fun c hc => List.mem_takeWhile_imp hc }, rfl
    rw [List.append_assoc, List.cons_append, List.takeWhile_append_dropWhile, ← hdrop, hsplit]
  · cases h

/-- The match in front of a text is the longest. -/
theorem longestFront_of_matchKeyNumber (h : matchKeyNumber s = some (w, rest)) :
  LongestFront IsKeyNumber s w rest
  := by
  obtain ⟨m, hw, hs⟩ := eq_text_of_matchKeyNumber h
  constructor
  · exact ⟨hs, m, hw⟩
  · rintro w' rest' ⟨hs', m', rfl⟩
    rw [hs', matchKeyNumber_text] at h
    cases h
    rw [KeyNumber.text]
    simp

theorem not_front_of_matchKeyNumber (h : matchKeyNumber s = none) (w rest : CStr) :
  ¬ Front IsKeyNumber s w rest
  := by
  rintro ⟨hs, m, rfl⟩
  rw [hs, matchKeyNumber_text] at h
  cases h

/-- `regexec` finds no match only where there is none. -/
theorem matchless_of_regexecKeyNumber (h : regexecKeyNumber s = none) :
  Matchless IsKeyNumber s
  := by
  induction s with
  | nil =>
      rintro before t w rest hs ⟨rfl, m, rfl⟩
      have hkey := (List.append_eq_nil_iff.mp hs.symm).2
      rw [KeyNumber.text] at hkey
      simp at hkey
  | cons c s ih =>
      rw [regexecKeyNumber] at h
      cases hmatch : matchKeyNumber (c :: s) with
      | some r =>
          rw [hmatch] at h
          cases h
      | none =>
          rw [hmatch] at h
          apply Matchless.cons (not_front_of_matchKeyNumber hmatch) (ih h)

/-- `regexec` finds the leftmost longest match. -/
theorem leftmostLongest_of_regexecKeyNumber (h : regexecKeyNumber s = some (w, rest)) :
  LeftmostLongest IsKeyNumber s w rest
  := by
  induction s with
  | nil => cases h
  | cons c s ih =>
      rw [regexecKeyNumber] at h
      cases hmatch : matchKeyNumber (c :: s) with
      | some r =>
          rw [hmatch] at h
          cases h
          apply (longestFront_of_matchKeyNumber hmatch).leftmostLongest
      | none =>
          rw [hmatch] at h
          apply LeftmostLongest.cons (not_front_of_matchKeyNumber hmatch) (ih h)

end

/-! ### The numbers a match sets -/

/-- The `int` at the address of a `ULONG`. -/
def intAt (u : ULong) : ℤ :=
  (u.setWidth 32).toInt

theorem intAt_storeInt {old : ULong} {i : ℤ} (hlow : -2 ^ 31 ≤ i) (hhigh : i < 2 ^ 31) :
  intAt (storeInt old i) = i
  := by
  have hwidth : (storeInt old i).setWidth 32 = BitVec.ofInt 32 i := by
    rw [storeInt]
    ext j hj
    simp
  rw [intAt, hwidth, BitVec.toInt_ofInt]
  apply Int.bmod_eq_of_le <;> omega

section

variable {key k number : CStr}

/-- A string is not found in a text that lacks one of its characters. -/
theorem strstr_eq_none {c : Char} {sub s : CStr} (hsub : c ∈ sub) (hs : c ∉ s) :
  strstr sub s = none
  := by
  induction s with
  | nil => apply if_neg (List.ne_nil_of_mem hsub)
  | cons d s ih =>
      rw [strstr, if_neg, ih (fun h => hs (List.mem_cons_of_mem d h))]
      intro hfront
      apply hs ((List.isPrefixOf_iff_prefix.mp hfront).subset hsub)

theorem isPrefixOf_key_iff (hkey : '=' ∉ key) (hnumber : '=' ∉ number) :
  (k ++ ['=']).isPrefixOf (key ++ '=' :: number) = true ↔ k = key
  := by
  rw [List.isPrefixOf_iff_prefix]
  constructor
  · rintro ⟨t, ht⟩
    rw [List.append_assoc, List.singleton_append] at ht
    apply ((List.append_cons_inj_of_notMem hkey hnumber).mp ht.symm).1.symm
  · rintro rfl
    use number
    rw [List.append_assoc, List.singleton_append]

/-- A key with its sign is found in a match if the key of the match ends in it. -/
theorem strstr_key (hne : k ≠ []) (hkey : '=' ∉ key) (hnumber : '=' ∉ number) :
  strstr (k ++ ['=']) (key ++ '=' :: number) =
    if k <:+ key then some (k ++ '=' :: number) else none
  := by
  induction key with
  | nil =>
      have hfront : ¬ (k ++ ['=']).isPrefixOf ('=' :: number) = true :=
        fun h => hne ((isPrefixOf_key_iff hkey hnumber).mp h)
      have hsign : '=' ∈ k ++ ['='] := List.mem_append_right k (List.mem_singleton_self '=')
      rw [List.nil_append, strstr, if_neg hfront, strstr_eq_none hsign hnumber, if_neg]
      rw [List.suffix_nil]
      apply hne
  | cons c key ih =>
      have hfront := isPrefixOf_key_iff (k := k) hkey hnumber
      rw [List.cons_append] at hfront ⊢
      rw [strstr]
      by_cases heq : k = c :: key
      · rw [if_pos (hfront.mpr heq), heq, if_pos (List.suffix_refl _)]
        rfl
      · rw [if_neg (mt hfront.mp heq), ih (fun h => hkey (List.mem_cons_of_mem c h))]
        simp only [List.suffix_cons_iff, heq, false_or]

end

section

variable {m : KeyNumber} {p : ULong × ULong} {ms : List KeyNumber}

theorem KeyNumber.notMem_key (m : KeyNumber) :
  '=' ∉ m.key
  := by
  intro h
  cases m.key_upper '=' h

theorem KeyNumber.notMem_number (m : KeyNumber) :
  '=' ∉ m.number
  := by
  intro h
  cases m.number_digits '=' h

theorem KeyNumber.atoi_number (m : KeyNumber) (h : m.value < 2 ^ 31) :
  atoi m.number = m.value
  := atoi_digits m.number_digits m.number_ne h

/-- The key `SRU`. -/
def sruKey : CStr :=
  "SRU".toList

/-- The key `SRD`. -/
def srdKey : CStr :=
  "SRD".toList

/-- What a match sets. -/
theorem setVendorParam_text (m : KeyNumber) (p : ULong × ULong) :
  setVendorParam m.text p =
    if sruKey <:+ m.key then (storeInt p.1 (atoi m.number), p.2)
    else if srdKey <:+ m.key then (p.1, storeInt p.2 (atoi m.number))
    else p
  := by
  have hsru : strstr "SRU=".toList m.text =
      if sruKey <:+ m.key then some (sruKey ++ '=' :: m.number) else none :=
    strstr_key (k := sruKey) (List.cons_ne_nil _ _) m.notMem_key m.notMem_number
  have hsrd : strstr "SRD=".toList m.text =
      if srdKey <:+ m.key then some (srdKey ++ '=' :: m.number) else none :=
    strstr_key (k := srdKey) (List.cons_ne_nil _ _) m.notMem_key m.notMem_number
  rw [setVendorParam, hsru, hsrd]
  by_cases h : sruKey <:+ m.key
  · rw [if_pos h, if_pos h]
    rfl
  · rw [if_neg h, if_neg h]
    by_cases h' : srdKey <:+ m.key
    · rw [if_pos h', if_pos h']
      rfl
    · rw [if_neg h', if_neg h']

/-- A key does not end in both. -/
theorem not_srdKey_of_sruKey (h : sruKey <:+ m.key) :
  ¬ srdKey <:+ m.key
  := by
  intro h'
  have hsuffix := List.suffix_of_suffix_length_le h h' (Nat.le_refl 3)
  revert hsuffix
  decide

/-- The loop sets what the matches set, one after the other. -/
theorem dmlSetVendorParamsLoop_eq {k : ℕ} {s : CStr}
    (h : FirstMatches IsKeyNumber k s (ms.map KeyNumber.text)) :
  dmlSetVendorParamsLoop k s p = ms.foldl (fun p m => setVendorParam m.text p) p
  := by
  generalize hws : ms.map KeyNumber.text = ws at h
  induction h generalizing ms p with
  | enough =>
      rw [List.map_eq_nil_iff.mp hws]
      rfl
  | @finished k s hnone =>
      rw [List.map_eq_nil_iff.mp hws, dmlSetVendorParamsLoop]
      cases hregexec : regexecKeyNumber s with
      | none => rfl
      | some r => apply absurd hnone (leftmostLongest_of_regexecKeyNumber hregexec).not_matchless
  | @next k s w rest ws hmatch hrest ih =>
      obtain ⟨m, ms, rfl, rfl, rfl⟩ := List.map_eq_cons_iff.mp hws
      rw [dmlSetVendorParamsLoop]
      cases hregexec : regexecKeyNumber s with
      | none => apply absurd (matchless_of_regexecKeyNumber hregexec) hmatch.not_matchless
      | some r =>
          obtain ⟨hw, hr⟩ := hmatch.unique (leftmostLongest_of_regexecKeyNumber hregexec)
          obtain ⟨w, rest'⟩ := r
          dsimp only at hw hr ⊢
          rw [← hw, ← hr, ih rfl]
          rfl

end

/-! ### The last number -/

section

variable {key : CStr} {prev : ℤ} {m : KeyNumber} {ms : List KeyNumber} {f : KeyNumber → Bool}

/-- The number of the last of the matches with a property, or `prev` if there is none. -/
def lastNumber (f : KeyNumber → Bool) (prev : ℤ) (ms : List KeyNumber) : ℤ :=
  ((ms.filter f).getLast?.map (fun m => (m.value : ℤ))).getD prev

theorem lastNumber_cons :
  lastNumber f prev (m :: ms) = lastNumber f (if f m then m.value else prev) ms
  := by
  rw [lastNumber, lastNumber, List.filter_cons]
  split_ifs
  · rw [List.getLast?_cons]
    cases (ms.filter f).getLast? <;> rfl
  · rfl

theorem lastNumber_concat :
  lastNumber f prev (ms ++ [m]) = if f m then (m.value : ℤ) else lastNumber f prev ms
  := by
  rw [lastNumber, lastNumber, List.filter_append, List.filter_singleton]
  cases f m with
  | true =>
      rw [cond_true, List.getLast?_concat]
      rfl
  | false =>
      rw [cond_false, List.append_nil]
      rfl

/-- The key of a match ends in `key`. -/
def endsIn (key : CStr) (m : KeyNumber) : Bool :=
  key <:+ m.key

/-- The key of a match is `key`. -/
def isFor (key : CStr) (m : KeyNumber) : Bool :=
  m.key = key

/-- The last of the matches whose key ends in `key` has that key, or else the number the matches before
it and `prev` give. -/
def LastIsFor (key : CStr) (prev : ℤ) (ms : List KeyNumber) : Prop :=
  ∀ before m after, ms = before ++ m :: after → endsIn key m = true →
    (∀ m' ∈ after, endsIn key m' = false) →
    isFor key m = true ∨ (m.value : ℤ) = lastNumber (isFor key) prev before

theorem endsIn_of_isFor (h : isFor key m = true) :
  endsIn key m = true
  := by
  rw [endsIn, of_decide_eq_true h]
  apply decide_eq_true (List.suffix_refl key)

/-- An element of a list with another at its end is that, or one of the list. -/
theorem split_concat {before after : List KeyNumber} {m' : KeyNumber}
    (h : ms ++ [m] = before ++ m' :: after) :
  (after = [] ∧ before = ms ∧ m' = m) ∨ ∃ after', after = after' ++ [m] ∧ ms = before ++ m' :: after'
  := by
  rcases List.eq_nil_or_concat' after with rfl | ⟨after, x, rfl⟩
  · obtain ⟨rfl, hlast⟩ := List.append_inj' h rfl
    exact .inl ⟨rfl, rfl, (List.singleton_inj.mp hlast).symm⟩
  · rw [← List.cons_append, ← List.append_assoc] at h
    obtain ⟨hms, hlast⟩ := List.append_inj' h rfl
    obtain rfl := List.singleton_inj.mp hlast
    exact .inr ⟨after, rfl, hms⟩

theorem lastIsFor_concat :
  LastIsFor key prev (ms ++ [m]) ↔
    if endsIn key m then isFor key m = true ∨ (m.value : ℤ) = lastNumber (isFor key) prev ms
    else LastIsFor key prev ms
  := by
  split_ifs with hends
  · constructor
    · intro h
      apply h ms m [] rfl hends nofun
    · intro h before m' after heq _ hafter
      rcases split_concat heq with ⟨rfl, rfl, rfl⟩ | ⟨after, rfl, -⟩
      · apply h
      · have hnot := hafter m (List.mem_append_right after (List.mem_singleton_self m))
        rw [hends] at hnot
        cases hnot
  · constructor
    · intro h before m' after heq hends' hafter
      apply h before m' (after ++ [m])
      · rw [heq, List.append_assoc, List.cons_append]
      · apply hends'
      · intro x hx
        rcases List.mem_append.mp hx with hx | hx
        · apply hafter x hx
        · rw [List.mem_singleton.mp hx]
          apply Bool.not_eq_true _ ▸ hends
    · intro h before m' after heq hends' hafter
      rcases split_concat heq with ⟨rfl, rfl, rfl⟩ | ⟨after, rfl, hms⟩
      · apply absurd hends' hends
      · apply h before m' after hms hends'
        intro y hy
        apply hafter y (List.mem_append_left _ hy)

/-- The numbers for the keys that end in `key` and for the key itself agree where the last of these
keys is `key`. -/
theorem lastNumber_endsIn_iff :
  lastNumber (endsIn key) prev ms = lastNumber (isFor key) prev ms ↔ LastIsFor key prev ms
  := by
  induction ms using List.reverseRecOn with
  | nil =>
      apply iff_of_true rfl
      intro before m after h
      simp at h
  | append_singleton ms m ih =>
      rw [lastIsFor_concat, lastNumber_concat, lastNumber_concat]
      split_ifs with hends hfor hfor
      · exact iff_of_true rfl (.inl hfor)
      · rw [or_iff_right hfor]
      · apply absurd (endsIn_of_isFor hfor) hends
      · apply ih

end

/-! ### The parameters -/

section

variable {msg : CStr} {p : ULong × ULong} {ms : List KeyNumber}

/-- The matches set the numbers of the last keys that end in `SRU` and `SRD`. -/
theorem foldl_setVendorParam (hvalue : ∀ m ∈ ms, m.value < 2 ^ 31) :
  intAt (ms.foldl (fun p m => setVendorParam m.text p) p).1 =
      lastNumber (endsIn sruKey) (intAt p.1) ms ∧
    intAt (ms.foldl (fun p m => setVendorParam m.text p) p).2 =
      lastNumber (endsIn srdKey) (intAt p.2) ms
  := by
  induction ms generalizing p with
  | nil => exact ⟨rfl, rfl⟩
  | cons m ms ih =>
      have hm := hvalue m List.mem_cons_self
      obtain ⟨hsru, hsrd⟩ := ih (p := setVendorParam m.text p)
        (fun m' hm' => hvalue m' (List.mem_cons_of_mem m hm'))
      rw [List.foldl_cons, hsru, hsrd, lastNumber_cons, lastNumber_cons, setVendorParam_text,
        m.atoi_number hm]
      have hint : ∀ u, intAt (storeInt u m.value) = m.value := by
        intro u
        apply intAt_storeInt <;> omega
      by_cases h : sruKey <:+ m.key
      · have h' := not_srdKey_of_sruKey h
        rw [if_pos h, endsIn, endsIn, if_pos (decide_eq_true h), decide_eq_false h',
          if_neg Bool.false_ne_true, hint]
        exact ⟨rfl, rfl⟩
      · by_cases h' : srdKey <:+ m.key
        · rw [if_neg h, if_pos h', endsIn, endsIn, decide_eq_false h, if_pos (decide_eq_true h'),
            if_neg Bool.false_ne_true, hint]
          exact ⟨rfl, rfl⟩
        · rw [if_neg h, if_neg h', endsIn, endsIn, decide_eq_false h, decide_eq_false h',
            if_neg Bool.false_ne_true, if_neg Bool.false_ne_true]
          exact ⟨rfl, rfl⟩

/-- The parameters become the numbers of the last of the matches with the keys `SRU` and `SRD`, and stay
as they are without such a match. -/
def SetsByKey (msg : CStr) (p : ULong × ULong) (ms : List KeyNumber) : Prop :=
  intAt (dmlSetVendorParams msg p).1 = lastNumber (isFor sruKey) (intAt p.1) ms ∧
    intAt (dmlSetVendorParams msg p).2 = lastNumber (isFor srdKey) (intAt p.2) ms

/-- The first two matches set the parameters by their keys where the last of the keys that end in a name
is that name. -/
theorem setsByKey_iff (hms : FirstMatches IsKeyNumber 2 msg (ms.map KeyNumber.text))
    (hvalue : ∀ m ∈ ms, m.value < 2 ^ 31) :
  SetsByKey msg p ms ↔
    LastIsFor sruKey (intAt p.1) ms ∧ LastIsFor srdKey (intAt p.2) ms
  := by
  obtain ⟨hsru, hsrd⟩ := foldl_setVendorParam (p := p) hvalue
  rw [SetsByKey, dmlSetVendorParams, dmlSetVendorParamsLoop_eq hms, hsru, hsrd,
    lastNumber_endsIn_iff, lastNumber_endsIn_iff]

end

/-- The key and the number of `SRU=5`. -/
def sruFive : KeyNumber where
  key := "SRU".toList
  number := "5".toList
  key_ne := List.cons_ne_nil _ _
  key_upper := List.all_eq_true.mp rfl
  number_ne := List.cons_ne_nil _ _
  number_digits := List.all_eq_true.mp rfl

/-- The key and the number of `XSRU=7`. -/
def xsruSeven : KeyNumber where
  key := "XSRU".toList
  number := "7".toList
  key_ne := List.cons_ne_nil _ _
  key_upper := List.all_eq_true.mp rfl
  number_ne := List.cons_ne_nil _ _
  number_digits := List.all_eq_true.mp rfl

/-- The matches of a message with both. -/
theorem firstMatches_sruFive :
  FirstMatches IsKeyNumber 2 "rates: SRU=5, XSRU=7".toList ([sruFive, xsruSeven].map KeyNumber.text)
  := .next (@leftmostLongest_of_regexecKeyNumber _ _ ", XSRU=7".toList rfl)
      (.next (@leftmostLongest_of_regexecKeyNumber _ _ [] rfl) .enough)

theorem setsByKey_iff_sruFive :
  SetsByKey "rates: SRU=5, XSRU=7".toList (0, 0) [sruFive, xsruSeven] ↔
    LastIsFor sruKey (intAt 0) [sruFive, xsruSeven] ∧ LastIsFor srdKey (intAt 0) [sruFive, xsruSeven]
  := by
  apply setsByKey_iff firstMatches_sruFive
  intro m hm
  rcases List.mem_pair.mp hm with rfl | rfl <;> decide +kernel

/-- The number of `XSRU` becomes `SRU`. -/
theorem longer_key_sets_sru :
  FirstMatches IsKeyNumber 2 "rates: SRU=5, XSRU=7".toList ([sruFive, xsruSeven].map KeyNumber.text) ∧
    ¬ SetsByKey "rates: SRU=5, XSRU=7".toList (0, 0) [sruFive, xsruSeven]
  := by
  use firstMatches_sruFive
  rintro ⟨hsru, -⟩
  revert hsru
  decide +kernel

end PppManager
