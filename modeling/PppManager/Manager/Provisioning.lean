import PppManager.Manager.Reload
import PppManager.Manager.Truncation

/-!
# Provisioned interfaces

A complete set of records of an interface is loaded, and the client is started with it.  The loader
knows one of the three authentication protocols by its name, and reads two numbers through a buffer
of ten bytes; so a start can use the protocol that was provisioned exactly if it is that one, or the
entry had it before, and the numbers fit (`provisions_iff`).
-/

namespace PppManager

open Effect Effect.Program CText

/-! ### Records -/

namespace DmlPppAuth

/-- The name of a protocol in the data model. -/
def name : DmlPppAuth → CStr
  | .unset => []
  | .pap => "PAP".toList
  | .chap => "CHAP".toList
  | .msChap => "MS-CHAP".toList

/-- The name of a protocol in the options of `pppd`. -/
def option : DmlPppAuth → CStr
  | .unset => []
  | .pap => "pap".toList
  | .chap => "chap".toList
  | .msChap => "mschap".toList

end DmlPppAuth

/-- A string that is not empty, has no blanks, and fits an array of `size` bytes. -/
structure FitsField (size : ℕ) (v : CStr) : Prop where
  ne_nil : v ≠ []
  plain : ∀ c ∈ v, isSpace c = false
  length_lt : v.length < size

/-- A complete set of records of an interface. -/
structure RecordSet where
  ifAlias : CStr
  serviceName : CStr
  name : CStr
  protocol : DmlPppAuth
  linkType : CStr
  lowerLayer : CStr
  username : CStr
  password : CStr
  ifAlias_fits : FitsField 512 ifAlias
  serviceName_fits : FitsField 512 serviceName
  name_fits : FitsField 64 name
  protocol_ne : protocol ≠ .unset
  linkType_known : linkType = "PPPoA".toList ∨ linkType = "PPPoE".toList
  lowerLayer_fits : FitsField 256 lowerLayer
  username_fits : FitsField 65 username
  password_fits : FitsField 65 password

/-- The records of the instance `n` are those of the set. -/
structure RecordSet.StoredFor (r : RecordSet) (psm : CStr → Option CStr) (n : ℕ) : Prop where
  ifAlias : psm (recordName psmPppIfAlias n) = some r.ifAlias
  serviceName : psm (recordName psmPppIfServiceName n) = some r.serviceName
  name : psm (recordName psmPppIfName n) = some r.name
  protocol : psm (recordName psmPppAuthProtocol n) = some r.protocol.name
  linkType : psm (recordName psmPppLinkType n) = some r.linkType
  lowerLayer : psm (recordName psmPppLowerlayers n) = some r.lowerLayer
  username : psm (recordName psmPppUsername n) = some r.username
  password : psm (recordName psmPppPassword n) = some r.password

/-- A number can be read through the buffer of ten bytes, which has the content `buff` before: if the
record is there, its first word fits, or there is none and the buffer has a content. -/
def NumberFits (buff v : Option CStr) : Prop :=
  WordFits v 10 ∧ (buff = none → ∀ x ∈ v, sscanfS x ≠ none)

/-- The idle time and the size of the units of the instance can be read. -/
def NumbersFit (psm : CStr → Option CStr) (n : ℕ) : Prop :=
  NumberFits none (psm (recordName psmPppIdletime n)) ∧
    NumberFits ((psm (recordName psmPppIdletime n)).bind sscanfS) (psm (recordName psmPppMaxmrusize n))

/-! ### Starts -/

/-- The words by which a `pppd` command requires the protocol and refuses the other two. -/
structure HasAuthWords (p : DmlPppAuth) (command : CStr) : Prop where
  required : "require-".toList ++ p.option ∈ strtok ' ' command
  refused : ∀ q ≠ p, q ≠ .unset → "refuse-".toList ++ q.option ∈ strtok ' ' command

/-- The entry has the protocol, a start finds its parameters complete, and the `pppd` it starts has the
words that require the protocol and refuse the other two. -/
structure StartsWith (b : Build) (p : DmlPppAuth) (e : DmlPppIfFull) : Prop where
  protocol : e.info.authenticationProtocol = p
  complete : e.hasPppParams = true
  command : b.usePppDaemon = true →
    ∃ command, configureClient b e = pure (some command) ∧ HasAuthWords p command

/-- The fields of an entry that a start of `pppd` looks at, but for the alias. -/
def DmlPppIfFull.startFields (e : DmlPppIfFull) :
    (CStr × CStr) × (CStr × CStr) × PppDmlLinkType × DmlPppAuth :=
  ((e.info.name, e.info.interfaceServiceName), (e.cfg.username, e.cfg.password), e.cfg.linkType,
    e.info.authenticationProtocol)

/-- The fields after the set of records is loaded, where the protocol of the entry was `old`. -/
def RecordSet.startFields (r : RecordSet) (old : DmlPppAuth) :
    (CStr × CStr) × (CStr × CStr) × PppDmlLinkType × DmlPppAuth :=
  ((r.name, r.serviceName), (r.username, r.password),
    if r.linkType = "PPPoA".toList then .pppoa else .pppoe,
    if r.protocol = .chap then .chap else old)

/-! ### The words of a command -/

theorem fitsField_of_all {size : ℕ} {v : CStr}
    (h : v ≠ [] ∧ v.all (fun c => !isSpace c) = true ∧ v.length < size) :
  FitsField size v
  := by
  obtain ⟨hne, hplain, hlength⟩ := h
  refine ⟨hne, ?_, hlength⟩
  intro c hc
  rw [← Bool.not_eq_true']
  apply List.all_eq_true.mp hplain c hc

theorem FitsField.word {size : ℕ} {v : CStr} (h : FitsField size v) :
  v ≠ [] ∧ ' ' ∉ v
  := by
  use h.ne_nil
  intro hblank
  cases h.plain ' ' hblank

/-- Words with a delimiter after each of them are split off. -/
theorem strtok_words {d : Char} {ws : List CStr} (hws : ∀ w ∈ ws, w ≠ [] ∧ d ∉ w) (s : CStr) :
  strtok d (ws.flatMap (· ++ [d]) ++ s) = ws ++ strtok d s
  := by
  induction ws with
  | nil => rfl
  | cons w ws ih =>
      obtain ⟨hne, hw⟩ := hws w List.mem_cons_self
      rw [List.flatMap_cons, List.append_assoc, List.append_assoc, List.singleton_append,
        strtok_cons hne hw, ih (fun w hw => hws w (List.mem_cons_of_mem _ hw)), List.cons_append]

/-- The options of `pppd` for a protocol. -/
def authWords (p : DmlPppAuth) : List CStr :=
  ("require-".toList ++ p.option) ::
    ([DmlPppAuth.pap, .chap, .msChap].filter (· ≠ p)).map (fun q => "refuse-".toList ++ q.option) ++
      ["noauth".toList]

theorem authProto_eq {p : DmlPppAuth} (hp : p ≠ .unset) :
  authProto p ++ [' '] = ' ' :: (authWords p).flatMap (· ++ [' '])
  := by
  cases p with
  | unset => apply absurd rfl hp
  | _ => rfl

theorem requiresOnly_of_subset {p : DmlPppAuth} {command : CStr}
    (h : authWords p ⊆ strtok ' ' command) :
  HasAuthWords p command
  := by
  constructor
  · apply h List.mem_cons_self
  · intro q hq hunset
    apply h
    apply List.mem_cons_of_mem
    apply List.mem_append_left
    apply List.mem_map_of_mem
    cases q with
    | unset => apply absurd rfl hunset
    | _ => simp [hq]

/-- The words of a `pppd` command before the options for the protocol. -/
def pppdWords (lib service : CStr) (e : DmlPppIfFull) : List CStr :=
  ["pppd".toList, "nodetach".toList, "plugin".toList, lib, service, "user".toList, e.cfg.username,
    "password".toList, e.cfg.password, "nodeflate".toList]

/-- The text of a `pppd` command up to the options for the protocol. -/
def pppdFront (lib service : CStr) (e : DmlPppIfFull) : CStr :=
  (pppdWords lib service e).flatMap (· ++ [' ']) ++
    ' ' :: (authWords e.info.authenticationProtocol).flatMap (· ++ [' '])

theorem pppdText_eq (lib service : CStr) {e : DmlPppIfFull}
    (he : e.info.authenticationProtocol ≠ .unset) :
  ∃ rest, pppdText lib service e = pppdFront lib service e ++ rest
  := by
  have htext : pppdText lib service e = "pppd nodetach plugin ".toList ++ (lib ++ ' ' :: (service ++
      (" user ".toList ++ (e.cfg.username ++ (" password ".toList ++ (e.cfg.password ++
        (" nodeflate ".toList ++ (authProto e.info.authenticationProtocol ++
          ' ' :: ("+ipv6 usepeerdns ifname ".toList ++
            (e.cfg.ifAlias ++ " persist &".toList)))))))))) := rfl
  have hauth : ∀ v, authProto e.info.authenticationProtocol ++ ' ' :: v =
      ' ' :: ((authWords e.info.authenticationProtocol).flatMap (· ++ [' ']) ++ v) := by
    intro v
    rw [← List.singleton_append, ← List.append_assoc, authProto_eq he, List.cons_append]
  use "+ipv6 usepeerdns ifname ".toList ++ (e.cfg.ifAlias ++ " persist &".toList)
  rw [htext, hauth, pppdFront, pppdWords]
  simp only [List.flatMap_cons, List.flatMap_nil, List.append_assoc, List.nil_append,
    List.cons_append]
  rfl

/-- The options for the protocol are not cut off. -/
theorem length_pppdFront {lib service : CStr} {e : DmlPppIfFull} (hlib : lib.length < 33)
    (hservice : service.length < 512) (huser : e.cfg.username.length < 65)
    (hpass : e.cfg.password.length < 65) :
  (pppdFront lib service e).length ≤ 1023
  := by
  have hauth : ((authWords e.info.authenticationProtocol).flatMap (· ++ [' '])).length ≤ 64 := by
    cases e.info.authenticationProtocol <;> decide
  have hlength : (pppdFront lib service e).length =
      lib.length + service.length + e.cfg.username.length + e.cfg.password.length + 50 +
        ((authWords e.info.authenticationProtocol).flatMap (· ++ [' '])).length := by
    rw [pppdFront, pppdWords]
    generalize (authWords e.info.authenticationProtocol).flatMap (· ++ [' ']) = v
    simp
    omega
  omega

/-- The words of a `pppd` command. -/
theorem strtok_pppdCommand {lib service : CStr} {e : DmlPppIfFull} (hlib : FitsField 33 lib)
    (hservice : FitsField 512 service) (huser : FitsField 65 e.cfg.username)
    (hpass : FitsField 65 e.cfg.password) (he : e.info.authenticationProtocol ≠ .unset) :
  ∃ rest, strtok ' ' (pppdCommand lib service e) =
    pppdWords lib service e ++ (authWords e.info.authenticationProtocol ++ rest)
  := by
  obtain ⟨rest, htext⟩ := pppdText_eq lib service he
  have hlength := length_pppdFront hlib.length_lt hservice.length_lt huser.length_lt hpass.length_lt
  have hcut : pppdCommand lib service e =
      pppdFront lib service e ++ rest.take (1023 - (pppdFront lib service e).length) := by
    rw [show pppdCommand lib service e = (pppdText lib service e).take 1023 from rfl, htext,
      List.take_append, List.take_of_length_le hlength]
  have hwords : ∀ w ∈ pppdWords lib service e, w ≠ [] ∧ ' ' ∉ w := by
    simp only [pppdWords, List.forall_mem_cons]
    exact ⟨by decide, by decide, by decide, hlib.word, hservice.word, by decide, huser.word,
      by decide, hpass.word, by decide, nofun⟩
  have hoptions : ∀ w ∈ authWords e.info.authenticationProtocol, w ≠ [] ∧ ' ' ∉ w := by
    cases e.info.authenticationProtocol <;> decide
  use strtok ' ' (rest.take (1023 - (pppdFront lib service e).length))
  rw [hcut, pppdFront, List.append_assoc, strtok_words hwords, List.cons_append]
  apply congrArg (pppdWords lib service e ++ ·)
  apply strtok_words hoptions

/-! ### Loading -/

section

variable {t : Thread} {X : Prop} {s : Sys} {e : DmlPppIfFull} {j n : ℕ} {name : CStr}

/-- A word that fits is loaded. -/
theorem reads_loadWord_some {size : ℕ} {set : CStr → DmlPppIfFull → DmlPppIfFull} {v : CStr}
    {Q : Unit → Sys → Prop} (hj : j < pppTableLength) (hv : FitsField size v)
    (hname : s.psm (recordName name n) = some v) (hQ : Q () (s.setEntry j (set v e))) :
  (reads t X).wp (loadWord j n name size set) Q (s.setEntry j e)
  := by
  rw [loadWord, Contract.wp_bind]
  apply reads_psmGet
  rw [Sys.setEntry_psm, hname]
  dsimp only
  rw [sscanfS_word hv.ne_nil hv.plain]
  dsimp only
  rw [if_pos hv.length_lt]
  apply reads_store hj hQ

/-- A number is loaded, or the run stops where its text does not fit the buffer. -/
theorem reads_number {β : Type} {p : β} (g : DmlPppIfFull → β) {buff : Option CStr}
    {set : ℤ → DmlPppIfFull → DmlPppIfFull} {Q : Option CStr → Sys → Prop}
    (hj : j < pppTableLength) (he : g e = p) (hset : ∀ v e, g (set v e) = g e)
    (hX : ¬ NumberFits buff (s.psm (recordName name n)) → X)
    (hQ : NumberFits buff (s.psm (recordName name n)) → ∀ e', g e' = p →
      Q (((s.psm (recordName name n)).bind sscanfS).or buff) (s.setEntry j e')) :
  (reads t X).wp (loadNumber j n name buff set) Q (s.setEntry j e)
  := by
  rw [loadNumber, Contract.wp_bind]
  apply reads_psmGet
  rw [Sys.setEntry_psm]
  cases hv : s.psm (recordName name n) with
  | none =>
      rw [hv] at hQ
      have habsent : NumberFits buff none := by
        constructor
        · rintro _ ⟨⟩
        · rintro _ _ ⟨⟩
      apply hQ habsent e he
  | some v =>
      rw [hv] at hX hQ
      rw [Option.bind_some] at hQ
      dsimp only
      cases hw : sscanfS v with
      | none =>
          have hword : WordFits (some v) 10 := by
            rw [WordFits, Option.bind_some, hw]
            rintro _ ⟨⟩
          rw [hw] at hQ
          cases buff with
          | none =>
              apply stops_undefined
              apply hX
              intro h
              apply h.2 rfl v rfl hw
          | some buff =>
              dsimp only
              rw [Contract.wp_bind]
              apply reads_store hj
              apply hQ ⟨hword, fun h => by cases h⟩
              rw [hset, he]
      | some w =>
          have hfits : NumberFits buff (some v) ↔ w.length < 10 := by
            rw [NumberFits, WordFits, Option.bind_some, hw]
            simp [hw]
          rw [hfits] at hX hQ
          rw [hw] at hQ
          dsimp only
          split_ifs with hsize
          · rw [Contract.wp_bind]
            apply reads_store hj
            apply hQ hsize
            rw [hset, he]
          · apply stops_undefined (hX hsize)

theorem startFields_loadLinkType (r : RecordSet) (e : DmlPppIfFull) :
  (e.loadLinkType r.linkType).startFields = (e.startFields.1, e.startFields.2.1,
    if r.linkType = "PPPoA".toList then .pppoa else .pppoe, e.startFields.2.2.2)
  := by
  rw [DmlPppIfFull.loadLinkType]
  split_ifs with hpppoa hpppoe
  · rfl
  · rfl
  · apply absurd r.linkType_known
    rintro (h | h)
    · apply hpppoa h
    · apply hpppoe h

/-- The loader knows one protocol. -/
theorem startFields_loadAuthProtocol (p : DmlPppAuth) (e : DmlPppIfFull) :
  (e.loadAuthProtocol p.name).startFields = (e.startFields.1, e.startFields.2.1,
    e.startFields.2.2.1, if p = .chap then .chap else e.startFields.2.2.2)
  := by
  cases p <;> rfl

/-- Loading a complete set of records gives its fields, or stops where a number does not fit. -/
theorem reads_recordSet {b : Build} (hb : b.pppUsernamePasswordFromPsm = true)
    (hj : j < pppTableLength) {r : RecordSet} (hr : r.StoredFor s.psm n) {Q : Unit → Sys → Prop}
    (hX : ¬ NumbersFit s.psm n → X)
    (hQ : NumbersFit s.psm n → ∀ e',
      e'.startFields = r.startFields e.info.authenticationProtocol → Q () (s.setEntry j e')) :
  (reads t X).wp (pppDmlGetIntfValuesFromPSM b n j) Q (s.setEntry j e)
  := by
  rw [pppDmlGetIntfValuesFromPSM, loadParameters, loadLowerLayers, loadCredentials, if_pos hb]
  rw [Contract.wp_bind, Contract.wp_bind]
  apply reads_loadWord_some hj r.ifAlias_fits hr.ifAlias
  rw [Contract.wp_bind]
  apply reads_loadWord_some hj r.serviceName_fits hr.serviceName
  rw [Contract.wp_bind]
  apply reads_loadWord_some hj r.name_fits hr.name
  rw [Contract.wp_bind]
  apply reads_loadRecord_some hj hr.protocol
  rw [Contract.wp_bind]
  apply reads_loadRecord DmlPppIfFull.startFields hj rfl
  · exact fun v e => e.loadLastConnectionError_cases v rfl (fun _ => rfl)
  intro e₁ he₁
  rw [Contract.wp_bind]
  apply reads_number DmlPppIfFull.startFields hj he₁
  · exact fun _ _ => rfl
  · exact fun h => hX (fun h' => h h'.1)
  intro hidle e₂ he₂
  rw [Contract.wp_bind, Option.or_none]
  apply reads_number DmlPppIfFull.startFields hj he₂
  · exact fun _ _ => rfl
  · exact fun h => hX (fun h' => h h'.2)
  intro hmru e₃ he₃
  rw [Contract.wp_bind]
  apply reads_loadRecord_some hj hr.linkType
  rw [Contract.wp_bind]
  have hlower : ∀ {e : DmlPppIfFull} {Q' : Unit → Sys → Prop},
      (∀ e', e'.startFields = e.startFields → Q' () (s.setEntry j e')) →
      (reads t X).wp (if b.dynamicConfigurePppLowerlayer = true then pure () else
        loadRecord j n psmPppLowerlayers (fun v => DmlPppIfFull.setLowerLayers (strncpy 255 v))) Q'
        (s.setEntry j e) := by
    intro e Q' hQ'
    split_ifs
    · apply hQ' e rfl
    · exact reads_loadRecord DmlPppIfFull.startFields hj rfl (fun _ _ => rfl) hQ'
  apply hlower
  intro e₄ he₄
  rw [Contract.wp_bind]
  apply reads_loadRecord_some hj hr.username
  apply reads_loadRecord_some hj hr.password
  apply reads_loadRecord DmlPppIfFull.startFields hj rfl
  · exact fun v e => e.loadSessionID_cases v rfl (fun _ => rfl)
  intro e₅ he₅
  apply hQ ⟨hidle, hmru⟩
  have huser : strncpy 64 r.username = r.username :=
    List.take_of_length_le (Nat.le_of_lt_succ r.username_fits.length_lt)
  have hpass : strncpy 64 r.password = r.password :=
    List.take_of_length_le (Nat.le_of_lt_succ r.password_fits.length_lt)
  rw [he₅, huser, hpass]
  show (e₄.startFields.1, (r.username, r.password), e₄.startFields.2.2) = _
  rw [he₄, startFields_loadLinkType, he₃]
  dsimp only
  rw [startFields_loadAuthProtocol]
  rfl

end

/-! ### Starting -/

section

variable {b : Build} {t : Thread} {ω : Answers} {j k n : ℕ} {s : Sys} {r : RecordSet}

theorem fitsField_pppoaLib : FitsField 33 pppoaLib := fitsField_of_all (by decide)

theorem fitsField_pppoeLib : FitsField 33 pppoeLib := fitsField_of_all (by decide)

theorem fitsField_pppoeVlanIfName : FitsField 512 pppoeVlanIfName :=
  fitsField_of_all (by decide)

/-- A `pppd` command requires the protocol of the entry and refuses the others. -/
theorem requiresOnly_pppdCommand {lib service : CStr} {e : DmlPppIfFull} (hlib : FitsField 33 lib)
    (hservice : FitsField 512 service) (huser : FitsField 65 e.cfg.username)
    (hpass : FitsField 65 e.cfg.password) (he : e.info.authenticationProtocol ≠ .unset) :
  HasAuthWords e.info.authenticationProtocol (pppdCommand lib service e)
  := by
  obtain ⟨rest, hwords⟩ := strtok_pppdCommand hlib hservice huser hpass he
  apply requiresOnly_of_subset
  intro w hw
  rw [hwords]
  apply List.mem_append_right _ (List.mem_append_left _ hw)

/-- An entry with the fields of a set of records is started with its protocol exactly if it is the one
that the loader knows, or the entry had it before. -/
theorem startsWith_iff {e : DmlPppIfFull} {old : DmlPppAuth} (he : e.startFields = r.startFields old) :
  StartsWith b r.protocol e ↔ r.protocol = .chap ∨ old = r.protocol
  := by
  simp only [DmlPppIfFull.startFields, RecordSet.startFields, Prod.mk.injEq] at he
  obtain ⟨⟨hname, hservice⟩, ⟨huser, hpass⟩, hlink, hauth⟩ := he
  have hprotocol : e.info.authenticationProtocol = r.protocol ↔
      r.protocol = .chap ∨ old = r.protocol := by
    rw [hauth]
    split_ifs with hchap
    · simp [hchap]
    · simp [hchap]
  rw [← hprotocol]
  constructor
  · apply StartsWith.protocol
  · intro hp
    have hset : e.info.authenticationProtocol ≠ .unset := by
      rw [hp]
      apply r.protocol_ne
    constructor
    · apply hp
    · simp [DmlPppIfFull.hasPppParams, hname, hservice, huser, hpass, r.name_fits.ne_nil,
        r.serviceName_fits.ne_nil, r.username_fits.ne_nil, r.password_fits.ne_nil, hset]
    · intro hdaemon
      have huser' : FitsField 65 e.cfg.username := huser ▸ r.username_fits
      have hpass' : FitsField 65 e.cfg.password := hpass ▸ r.password_fits
      have hservice' : FitsField 512 e.info.interfaceServiceName := hservice ▸ r.serviceName_fits
      rw [← hp, configureClient]
      split_ifs at hlink with hpppoa
      · rw [hlink]
        dsimp only
        rw [if_pos hdaemon]
        exact ⟨_, rfl, requiresOnly_pppdCommand fitsField_pppoaLib hservice' huser' hpass' hset⟩
      · rw [hlink]
        dsimp only
        rw [if_pos hdaemon]
        exact ⟨_, rfl, requiresOnly_pppdCommand fitsField_pppoeLib fitsField_pppoeVlanIfName huser'
          hpass' hset⟩

theorem respects_reads {X : Prop} (hω : ∀ k name, ω k (.psmGet name) = true) :
  (reads t X).Respects ω
  := by
  intro k o
  cases o with
  | psmGet name => apply hω
  | _ => trivial

/-- What a load that ends leaves in the entry. -/
theorem loaded_of_exec (hb : b.pppUsernamePasswordFromPsm = true)
    (hω : ∀ k name, ω k (.psmGet name) = true) (hj : j < pppTableLength)
    (hr : r.StoredFor s.psm n) {s' : Sys} {k' : ℕ}
    (hexec : (machine t).exec ω (pppDmlGetIntfValuesFromPSM b n j) k s = .ok ((), s', k')) :
  NumbersFit s.psm n ∧
    (s'.table j).startFields = r.startFields (s.table j).info.authenticationProtocol
  := by
  have hwp : (reads t True).wp (pppDmlGetIntfValuesFromPSM b n j) (fun _ s' => NumbersFit s.psm n ∧
      (s'.table j).startFields = r.startFields (s.table j).info.authenticationProtocol)
      (s.setEntry j (s.table j)) := by
    apply reads_recordSet hb hj hr
    · intro _
      trivial
    · intro hnumbers e' he'
      use hnumbers
      rw [Sys.setEntry_table, Function.update_self, he']
  rw [Sys.setEntry_self _ _ rfl] at hwp
  apply Contract.wp_exec_ok (respects_reads hω) hwp hexec

/-- A load ends where the numbers fit. -/
theorem exec_loads (hb : b.pppUsernamePasswordFromPsm = true)
    (hω : ∀ k name, ω k (.psmGet name) = true) (hj : j < pppTableLength)
    (hr : r.StoredFor s.psm n) (hnumbers : NumbersFit s.psm n) :
  ∃ s' k', (machine t).exec ω (pppDmlGetIntfValuesFromPSM b n j) k s = .ok ((), s', k')
  := by
  have hwp : (reads t False).wp (pppDmlGetIntfValuesFromPSM b n j) (fun _ _ => True)
      (s.setEntry j (s.table j)) := by
    apply reads_recordSet hb hj hr
    · intro h
      apply h hnumbers
    · intro _ _ _
      trivial
  rw [Sys.setEntry_self _ _ rfl] at hwp
  have hends := Contract.wp_exec (t := k) (respects_reads hω) hwp
  split at hends
  · rename_i s' k' hexec
    exact ⟨s', k', hexec⟩
  · apply hends.elim

/-- For every instance and every complete set of records for it, the client can be started with the
protocol of the set exactly if the loader knows it, or the entry had it before, and the numbers of
the instance fit the buffer they are read through. -/
theorem provisions_iff (hb : b.pppUsernamePasswordFromPsm = true)
    (hω : ∀ k name, ω k (.psmGet name) = true) (hj : j < pppTableLength)
    (hr : r.StoredFor s.psm n) :
  (∃ s' k', (machine t).exec ω (pppDmlGetIntfValuesFromPSM b n j) k s = .ok ((), s', k') ∧
      StartsWith b r.protocol (s'.table j)) ↔
    (r.protocol = .chap ∨ (s.table j).info.authenticationProtocol = r.protocol) ∧
      NumbersFit s.psm n
  := by
  constructor
  · rintro ⟨s', k', hexec, hstarts⟩
    obtain ⟨hnumbers, hfields⟩ := loaded_of_exec hb hω hj hr hexec
    exact ⟨(startsWith_iff hfields).mp hstarts, hnumbers⟩
  · rintro ⟨hprotocol, hnumbers⟩
    obtain ⟨s', k', hexec⟩ := exec_loads (t := t) (k := k) hb hω hj hr hnumbers
    obtain ⟨-, hfields⟩ := loaded_of_exec hb hω hj hr hexec
    exact ⟨s', k', hexec, (startsWith_iff hfields).mpr hprotocol⟩

end

/-! ### A protocol the loader does not know -/

/-- A set of records with a protocol. -/
def recordsWith (p : DmlPppAuth) (hp : p ≠ .unset) : RecordSet where
  ifAlias := "dsl0".toList
  serviceName := "internet".toList
  name := "ppp0".toList
  protocol := p
  linkType := "PPPoE".toList
  lowerLayer := "Device.VLAN.1".toList
  username := "user".toList
  password := "secret".toList
  ifAlias_fits := fitsField_of_all (by decide)
  serviceName_fits := fitsField_of_all (by decide)
  name_fits := fitsField_of_all (by decide)
  protocol_ne := hp
  linkType_known := .inr rfl
  lowerLayer_fits := fitsField_of_all (by decide)
  username_fits := fitsField_of_all (by decide)
  password_fits := fitsField_of_all (by decide)

/-- A fresh manager, and a database with a set of records for the instance 1 and no others. -/
def provisionedState (r : RecordSet) : Sys :=
  .blank fun name => [(recordName psmPppIfAlias 1, r.ifAlias),
    (recordName psmPppIfServiceName 1, r.serviceName), (recordName psmPppIfName 1, r.name),
    (recordName psmPppAuthProtocol 1, r.protocol.name), (recordName psmPppLinkType 1, r.linkType),
    (recordName psmPppLowerlayers 1, r.lowerLayer), (recordName psmPppUsername 1, r.username),
    (recordName psmPppPassword 1, r.password)].lookup name

theorem storedFor_provisionedState (r : RecordSet) :
  r.StoredFor (provisionedState r).psm 1
  := by
  constructor <;> rfl

theorem numbersFit_provisionedState (r : RecordSet) :
  NumbersFit (provisionedState r).psm 1
  := by
  have hidle : (provisionedState r).psm (recordName psmPppIdletime 1) = none := by
    rfl
  have hmru : (provisionedState r).psm (recordName psmPppMaxmrusize 1) = none := by
    rfl
  rw [NumbersFit, hidle, hmru]
  exact ⟨⟨nofun, nofun⟩, ⟨nofun, nofun⟩⟩

theorem provisions_iff_chap :
  ∃ s' k', (machine .dataModel).exec (workingOutside 1 none []).answers
      (pppDmlGetIntfValuesFromPSM (plainBuild true) 1 0) 0
      (provisionedState (recordsWith .chap nofun)) = .ok ((), s', k') ∧
    StartsWith (plainBuild true) .chap (s'.table 0)
  := by
  apply (provisions_iff (r := recordsWith .chap nofun) rfl _ (by decide) _).mpr
  · exact ⟨.inl rfl, numbersFit_provisionedState _⟩
  · intro k name
    rfl
  · apply storedFor_provisionedState

/-- A client that is provisioned with PAP cannot be started with it. -/
theorem pap_not_loaded :
  ¬ ∀ (b : Build) (t : Thread) (ω : Answers) (j k n : ℕ) (s : Sys) (r : RecordSet),
    b.pppUsernamePasswordFromPsm = true → (∀ k name, ω k (.psmGet name) = true) →
    j < pppTableLength → r.StoredFor s.psm n → NumbersFit s.psm n →
    ∃ s' k', (machine t).exec ω (pppDmlGetIntfValuesFromPSM b n j) k s = .ok ((), s', k') ∧
      StartsWith b r.protocol (s'.table j)
  := by
  intro h
  have hstored := storedFor_provisionedState (recordsWith .pap nofun)
  obtain ⟨s', k', hexec, hstarts⟩ := h (plainBuild true) .dataModel
    (workingOutside 1 none []).answers 0 0 1 (provisionedState (recordsWith .pap nofun))
    (recordsWith .pap nofun) rfl (fun _ _ => rfl) (by decide) hstored
    (numbersFit_provisionedState _)
  obtain ⟨-, hfields⟩ := loaded_of_exec rfl (fun _ _ => rfl) (by decide) hstored hexec
  rcases (startsWith_iff hfields).mp hstarts with hchap | hpap
  · cases hchap
  · cases hpap

end PppManager
