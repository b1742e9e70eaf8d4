import PppManager.Files.Tree
import PppManager.Manager.SessionRuns

/-!
# The files of the DUIDs

What `PppMgr_GenerateDuidFile` and `PppMgr_RemoveDuidFile` do on the disk: the first writes the DUID that
is made from the hardware address into a file of the directory of the interface, which it makes if need
be; the second removes the file.  Both name the same file, although only one of them builds the path in
two steps (`generatedPath_eq`).  So in every run, as long as the WAN manager was told last that IPv6CP is
up, the file of the interface has its DUID, whatever was done for other interfaces (`duid_on_disk`).
-/

namespace PppManager

open Effect CText Files Function

/-- `PHY_IF_MAC_PATH`. -/
def phyIfMacPath : CStr := "/sys/class/net/atm0/address".toList

/-- `DHCPV6_PATH`. -/
def dhcpv6Path : CStr := "/etc/dibbler/%s/".toList

/-- `DHCPV6_DUID_FILE`. -/
def dhcpv6DuidFile : CStr := "client-duid".toList

/-- `DUID_TYPE`, where `DUID_UUID_ENABLE` is not defined. -/
def duidType : CStr := "00:03:".toList

/-- `HW_TYPE`. -/
def hwType : CStr := "00:01:".toList

/-- `strncat`: the text `s` with at most `n` characters of `src` after it. -/
def strncat (s src : CStr) (n : ℕ) : CStr :=
  s ++ src.take n

/-- What the system lets the manager do with files. -/
structure DiskAnswers where
  canRead : Bool
  canMkdir : Bool
  canWrite : Bool
  canRemove : Bool

/-- The directory of the interface, in `file_path`. -/
def duidDirectory (wanName : CStr) : CStr :=
  snprintf 256 dhcpv6Path [.str wanName]

/-- The path of the file that `PppMgr_GenerateDuidFile` writes. -/
def generatedPath (wanName : CStr) : CStr :=
  strncat (duidDirectory wanName) dhcpv6DuidFile (256 - (duidDirectory wanName).length - 1)

/-- The path of the file that `PppMgr_RemoveDuidFile` removes. -/
def removedPath (wanName : CStr) : CStr :=
  snprintf 256 (dhcpv6Path ++ dhcpv6DuidFile) [.str wanName]

/-- The text of the file with the hardware address, if it can be read. -/
def macText (x : DiskAnswers) (t : Tree) : Option CStr :=
  match t (place phyIfMacPath) with
  | some (.file content) => if x.canRead then some content else none
  | _ => none

/-- The DUID, in `buff`: the address is taken for a format.  The value is `none` where it is a format
that needs an argument. -/
def duidText (mac : CStr) : Option CStr :=
  if printfDefined mac [] then some (duidType ++ hwType ++ printf mac []) else none

/-- The disk when the directory of the interface has been made, if there was none. -/
def Disk.withDirectory (x : DiskAnswers) (wanName : CStr) (t : Tree) : Tree :=
  if t.stat (duidDirectory wanName) then t else t.mkdir x.canMkdir (duidDirectory wanName)

/-- `PppMgr_GenerateDuidFile` on the disk, or `none` if its behaviour is undefined: `mac` has no NUL if
the file has 64 bytes or more. -/
def Disk.generateDuidFile (x : DiskAnswers) (wanName : CStr) (t : Tree) : Option Tree :=
  match macText x t with
  | none => some t
  | some mac =>
    if 64 ≤ mac.length then none
    else
      let t := Disk.withDirectory x wanName t
      match t.fopenWrite x.canWrite (generatedPath wanName) with
      | none => some t
      | some p => (duidText mac).map (t.write p)

/-- `PppMgr_RemoveDuidFile` on the disk. -/
def Disk.removeDuidFile (x : DiskAnswers) (wanName : CStr) (t : Tree) : Tree :=
  if t.stat (removedPath wanName) then t.remove x.canRemove (removedPath wanName) else t

/-- The file that is written is the file that is removed, also where the name is too long for the
path. -/
theorem generatedPath_eq (wanName : CStr) :
  generatedPath wanName = removedPath wanName
  := by
  have hwritten : printf (dhcpv6Path ++ dhcpv6DuidFile) [.str wanName] =
      printf dhcpv6Path [.str wanName] ++ dhcpv6DuidFile := by
    have hfile : printf (dhcpv6Path ++ dhcpv6DuidFile) [.str wanName] =
        "/etc/dibbler/".toList ++ (wanName ++ '/' :: dhcpv6DuidFile) := rfl
    have hdirectory : printf dhcpv6Path [.str wanName] =
        "/etc/dibbler/".toList ++ (wanName ++ ['/']) := rfl
    rw [hfile, hdirectory, List.append_assoc, List.append_assoc]
    rfl
  rw [generatedPath, strncat, removedPath, snprintf, hwritten, List.take_append, duidDirectory,
    snprintf, List.length_take]
  congr 2
  omega

/-! ### Places -/

/-- A name that is the name of a directory, and short enough for the path. -/
structure NamesDirectory (wanName : CStr) : Prop extends IsName wanName where
  length_le : wanName.length ≤ 230

/-- The directory of the directories of the interfaces. -/
def dibblerPlace : Place :=
  ["etc".toList, "dibbler".toList]

/-- Where the directory of an interface is. -/
def directoryPlace (wanName : CStr) : Place :=
  ["etc".toList, "dibbler".toList, wanName]

/-- Where the DUID of an interface is. -/
def duidPlace (wanName : CStr) : Place :=
  ["etc".toList, "dibbler".toList, wanName, dhcpv6DuidFile]

/-- Where the hardware address is. -/
def addressPlace : Place :=
  ["sys".toList, "class".toList, "net".toList, "atm0".toList, "address".toList]

theorem place_phyIfMacPath :
  place phyIfMacPath = addressPlace
  := by
  decide +kernel

section

variable {w w' mac : CStr}

theorem isName_etc :
  IsName "etc".toList ∧ IsName "dibbler".toList ∧ IsName dhcpv6DuidFile
  := by
  refine ⟨⟨?_, ?_, ?_, ?_⟩, ⟨?_, ?_, ?_, ?_⟩, ⟨?_, ?_, ?_, ?_⟩⟩ <;> decide

theorem NamesDirectory.isName (h : NamesDirectory w) :
  (∀ name ∈ directoryPlace w, IsName name) ∧
    ∀ name ∈ duidPlace w, IsName name
  := by
  obtain ⟨hetc, hdibbler, hfile⟩ := isName_etc
  constructor
  · intro name hname
    simp only [directoryPlace, List.mem_cons, List.not_mem_nil, or_false] at hname
    rcases hname with rfl | rfl | rfl
    · apply hetc
    · apply hdibbler
    · apply h.toIsName
  · intro name hname
    simp only [duidPlace, List.mem_cons, List.not_mem_nil, or_false] at hname
    rcases hname with rfl | rfl | rfl | rfl
    · apply hetc
    · apply hdibbler
    · apply h.toIsName
    · apply hfile

theorem place_duidDirectory (h : NamesDirectory w) :
  place (duidDirectory w) = directoryPlace w
  := by
  have htext : printf dhcpv6Path [.str w] = "/etc/dibbler/".toList ++ (w ++ ['/']) := rfl
  have hpath : pathOf (directoryPlace w) = "/etc/dibbler/".toList ++ (w ++ []) := rfl
  rw [List.append_nil] at hpath
  have hbase : "/etc/dibbler/".toList.length = 13 := rfl
  have hlength := h.length_le
  rw [duidDirectory, snprintf, List.take_of_length_le, htext, ← List.append_assoc,
    place_append_slash, ← hpath, place_pathOf h.isName.1]
  rw [htext, List.length_append, List.length_append, hbase, List.length_singleton]
  omega

theorem removedPath_eq (h : NamesDirectory w) :
  removedPath w = pathOf (duidPlace w)
  := by
  have htext : printf (dhcpv6Path ++ dhcpv6DuidFile) [.str w] =
      "/etc/dibbler/".toList ++ (w ++ '/' :: dhcpv6DuidFile) := rfl
  have hbase : "/etc/dibbler/".toList.length = 13 := rfl
  have hfile : dhcpv6DuidFile.length = 11 := rfl
  have hlength := h.length_le
  rw [removedPath, snprintf, List.take_of_length_le, htext]
  · rfl
  · rw [htext, List.length_append, List.length_append, List.length_cons, hbase, hfile]
    omega

theorem place_removedPath (h : NamesDirectory w) :
  place (removedPath w) = duidPlace w
  := by
  rw [removedPath_eq h, place_pathOf h.isName.2]

theorem getLast?_removedPath (h : NamesDirectory w) :
  (removedPath w).getLast? = some 'd'
  := by
  have hpath : pathOf (duidPlace w) = "/etc/dibbler/".toList ++ (w ++ '/' :: dhcpv6DuidFile) := rfl
  have hfile : ('/' :: dhcpv6DuidFile).getLast? = some 'd' := rfl
  rw [removedPath_eq h, hpath, List.getLast?_append, List.getLast?_append, hfile]
  rfl

end

/-! ### The disk -/

/-- The text of a hardware address: it fits, and is no format that needs an argument. -/
structure IsAddress (mac : CStr) : Prop where
  length_lt : mac.length < 64
  defined : printfDefined mac [] = true

/-- The DUID with a hardware address. -/
def duidOf (mac : CStr) : CStr :=
  duidType ++ hwType ++ printf mac []

/-- The system lets the manager do everything. -/
structure DiskAnswers.Works (x : DiskAnswers) : Prop where
  canRead : x.canRead = true
  canMkdir : x.canMkdir = true
  canWrite : x.canWrite = true
  canRemove : x.canRemove = true

/-- The disk has the hardware address and the directory for the interfaces, and nothing on it is in the
way of the DUID of the interface. -/
structure Disk.Ready (w mac : CStr) (t : Tree) : Prop where
  dibbler : t dibblerPlace = some .directory
  address : t addressPlace = some (.file mac)
  directory : ∀ content, t (directoryPlace w) ≠ some (.file content)
  file : t (duidPlace w) ≠ some .directory

namespace Disk

variable {w w' mac : CStr} {t : Tree} {x : DiskAnswers} {p : Place}

theorem withDirectory_of_ne (hw : NamesDirectory w) (h : p ≠ directoryPlace w) :
  withDirectory x w t p = t p
  := by
  rw [withDirectory]
  split_ifs
  · rfl
  · apply Tree.mkdir_of_ne
    rw [place_duidDirectory hw]
    apply h

theorem withDirectory_directory (hw : NamesDirectory w) (ht : Ready w mac t)
    (hx : x.canMkdir = true) :
  withDirectory x w t (directoryPlace w) = some .directory
  := by
  have hplace := place_duidDirectory hw
  rw [withDirectory, hx]
  split_ifs with hstat
  · rw [Tree.stat, hplace] at hstat
    obtain ⟨n, hn⟩ := Option.isSome_iff_exists.mp hstat
    cases n with
    | directory => apply hn
    | file content => apply absurd hn (ht.directory content)
  · rw [← hplace]
    apply Tree.mkdir_place
    · rw [hplace]
      apply ht.dibbler
    · rw [hplace]
      apply ht.directory

/-- The DUID is generated: nothing else changes than the directory of the interface and its file. -/
theorem generateDuidFile_frame (hw : NamesDirectory w) (haddress : t addressPlace = some (.file mac))
    (hmac : IsAddress mac) (x : DiskAnswers) :
  ∃ t', generateDuidFile x w t = some t' ∧
    ∀ p, p ≠ directoryPlace w → p ≠ duidPlace w → t' p = t p
  := by
  rw [generateDuidFile, macText, place_phyIfMacPath, haddress]
  dsimp only
  split_ifs with hread
  · dsimp only
    rw [if_neg (by have := hmac.length_lt; omega)]
    cases hopen : (withDirectory x w t).fopenWrite x.canWrite (generatedPath w) with
    | none =>
        refine ⟨_, rfl, ?_⟩
        intro p hp _
        apply withDirectory_of_ne hw hp
    | some q =>
        dsimp only
        rw [duidText, if_pos hmac.defined]
        refine ⟨_, rfl, ?_⟩
        intro p hdirectory hfile
        obtain rfl := Tree.eq_place_of_fopenWrite hopen
        rw [generatedPath_eq, place_removedPath hw, Tree.write_of_ne hfile]
        apply withDirectory_of_ne hw hdirectory
  · exact ⟨t, rfl, fun _ _ _ => rfl⟩

/-- The DUID is in its file when it has been generated. -/
theorem generateDuidFile_file (hw : NamesDirectory w) (ht : Ready w mac t) (hmac : IsAddress mac)
    (hx : x.Works) :
  ∃ t', generateDuidFile x w t = some t' ∧ t' (duidPlace w) = some (.file (duidOf mac)) ∧
    t' (directoryPlace w) = some .directory
  := by
  have hne : duidPlace w ≠ directoryPlace w := by
    intro h
    cases congrArg List.length h
  have hplace : place (generatedPath w) = duidPlace w := by
    rw [generatedPath_eq, place_removedPath hw]
  have hdirectory := withDirectory_directory hw ht hx.canMkdir
  rw [generateDuidFile, macText, place_phyIfMacPath, ht.address]
  dsimp only
  rw [if_pos hx.canRead]
  dsimp only
  rw [if_neg (by have := hmac.length_lt; omega), Tree.fopenWrite, if_pos, hplace, duidText,
    if_pos hmac.defined]
  · refine ⟨_, rfl, Tree.write_self, ?_⟩
    rw [Tree.write_of_ne hne.symm, hdirectory]
  · refine ⟨hx.canWrite, ?_, ?_, ?_⟩
    · rw [generatedPath_eq, getLast?_removedPath hw]
      decide
    · rw [hplace, withDirectory_of_ne hw hne]
      apply ht.file
    · rw [hplace]
      apply hdirectory

/-- Nothing else changes than the file when the DUID is removed. -/
theorem removeDuidFile_of_ne (hw : NamesDirectory w) (hp : p ≠ duidPlace w) :
  removeDuidFile x w t p = t p
  := by
  rw [removeDuidFile]
  split_ifs
  · apply Tree.remove_of_ne
    rw [place_removedPath hw]
    apply hp
  · rfl

/-- There is no file when the DUID has been removed. -/
theorem removeDuidFile_file (hw : NamesDirectory w) (hx : x.Works) :
  removeDuidFile x w t (duidPlace w) = none
  := by
  rw [removeDuidFile, hx.canRemove, ← place_removedPath hw]
  split_ifs with hstat
  · apply Tree.remove_place
  · apply Option.not_isSome_iff_eq_none.mp hstat

end Disk

/-! ### Acts on the disk -/

/-- What an act does on the disk, with the answers of the system. -/
def Act.onDisk (a : Act × DiskAnswers) (t : Tree) : Option Tree :=
  match a.1 with
  | .generateDuidFile wanName => Disk.generateDuidFile a.2 wanName t
  | .removeDuidFile wanName => some (Disk.removeDuidFile a.2 wanName t)
  | _ => some t

/-- Whether an act keeps the DUID of an interface, if it is about it. -/
def Act.keepsDuid (w : CStr) : Act → Option Bool
  | .generateDuidFile wanName => if wanName = w then some true else none
  | .removeDuidFile wanName => if wanName = w then some false else none
  | _ => none

/-- What is in the place of a DUID that is kept, or not. -/
def duidNode (mac : CStr) (isKept : Bool) : Option Node :=
  if isKept then some (.file (duidOf mac)) else none

section

variable {w mac : CStr} {t : Tree}

/-- A disk that is the same in the places that matter is ready, too. -/
theorem Disk.Ready.congr {w' : CStr} {t' : Tree} (ht : Ready w mac t) (hw : w' ≠ w)
    (h : ∀ p, p ≠ directoryPlace w' → p ≠ duidPlace w' → t' p = t p) :
  Ready w mac t' ∧ t' (duidPlace w) = t (duidPlace w)
  := by
  have hother : ∀ p : Place, p.length = 2 ∨ p.length = 5 ∨ p[2]? = some w → t' p = t p := by
    intro p hp
    apply h
    · rintro rfl
      apply hw
      simpa [directoryPlace] using hp
    · rintro rfl
      apply hw
      simpa [duidPlace] using hp
  have hfile : t' (duidPlace w) = t (duidPlace w) := hother _ (.inr (.inr rfl))
  refine ⟨⟨?_, ?_, ?_, ?_⟩, hfile⟩
  · rw [hother _ (.inl rfl), ht.dibbler]
  · rw [hother _ (.inr (.inl rfl)), ht.address]
  · rw [hother _ (.inr (.inr rfl))]
    apply ht.directory
  · rw [hfile]
    apply ht.file

/-- An act leaves the disk ready, and the DUID as it keeps it. -/
theorem Act.onDisk_ready {a : Act} {x : DiskAnswers} (ht : Disk.Ready w mac t)
    (hw : NamesDirectory w) (hmac : IsAddress mac) (hx : x.Works)
    (ha : ∀ w', a.duidName = some w' → NamesDirectory w') :
  ∃ t', Act.onDisk (a, x) t = some t' ∧ Disk.Ready w mac t' ∧
    t' (duidPlace w) = ((a.keepsDuid w).map (duidNode mac)).getD (t (duidPlace w))
  := by
  cases a with
  | generateDuidFile w' =>
      have hw' := ha w' rfl
      obtain ⟨t', hgenerate, hframe⟩ := Disk.generateDuidFile_frame hw' ht.address hmac x
      refine ⟨t', hgenerate, ?_⟩
      by_cases heq : w' = w
      · obtain rfl := heq
        obtain ⟨t₁, hgenerate₁, hfile, hdirectory⟩ := Disk.generateDuidFile_file hw' ht hmac hx
        obtain rfl := Option.some.inj (hgenerate.symm.trans hgenerate₁)
        have hsame : ∀ p : Place, p.length = 2 ∨ p.length = 5 → t' p = t p := by
          intro p hp
          apply hframe <;> rintro rfl <;> simp [directoryPlace, duidPlace] at hp
        refine ⟨⟨?_, ?_, ?_, ?_⟩, ?_⟩
        · rw [hsame _ (.inl rfl), ht.dibbler]
        · rw [hsame _ (.inr rfl), ht.address]
        · rw [hdirectory]
          rintro content ⟨⟩
        · rw [hfile]
          rintro ⟨⟩
        · rw [Act.keepsDuid, if_pos rfl, hfile]
          rfl
      · rw [Act.keepsDuid, if_neg heq]
        apply ht.congr heq hframe
  | removeDuidFile w' =>
      have hw' := ha w' rfl
      refine ⟨_, rfl, ?_⟩
      by_cases heq : w' = w
      · obtain rfl := heq
        have hfile := Disk.removeDuidFile_file (t := t) hw' hx
        have hsame : ∀ p : Place, p.length ≠ 4 → Disk.removeDuidFile x w' t p = t p := by
          intro p hp
          apply Disk.removeDuidFile_of_ne hw'
          rintro rfl
          apply hp rfl
        refine ⟨⟨?_, ?_, ?_, ?_⟩, ?_⟩
        · rw [hsame _ (by decide), ht.dibbler]
        · rw [hsame _ (by decide), ht.address]
        · rw [hsame _ (by simp [directoryPlace])]
          apply ht.directory
        · rw [hfile]
          rintro ⟨⟩
        · rw [Act.keepsDuid, if_pos rfl, hfile]
          rfl
      · rw [Act.keepsDuid, if_neg heq]
        apply ht.congr heq
        intro p _ hp
        apply Disk.removeDuidFile_of_ne hw' hp
  | _ => exact ⟨t, rfl, ht, rfl⟩

/-- After some acts the DUID is as the last act about it keeps it. -/
theorem run_onDisk {ws : List (Act × DiskAnswers)} (ht : Disk.Ready w mac t) (hw : NamesDirectory w)
    (hmac : IsAddress mac) (hworks : ∀ v ∈ ws, v.2.Works)
    (hnames : ∀ v ∈ ws, ∀ w', v.1.duidName = some w' → NamesDirectory w') :
  ∃ t', run Act.onDisk ws t = some t' ∧ t' (duidPlace w) =
    ((lastOf (Act.keepsDuid w) (ws.map Prod.fst)).map (duidNode mac)).getD (t (duidPlace w))
  := by
  induction ws generalizing t with
  | nil => exact ⟨t, rfl, rfl⟩
  | cons v ws ih =>
      obtain ⟨t₁, hstep, ht₁, hfile₁⟩ := Act.onDisk_ready ht hw hmac (hworks v List.mem_cons_self)
        (hnames v List.mem_cons_self)
      obtain ⟨t', hrun, hfile⟩ := ih ht₁ (fun v hv => hworks v (List.mem_cons_of_mem _ hv))
        (fun v hv => hnames v (List.mem_cons_of_mem _ hv))
      refine ⟨t', ?_, ?_⟩
      · rw [run, hstep]
        apply hrun
      · have hlast : lastOf (Act.keepsDuid w) ((v :: ws).map Prod.fst) =
            (lastOf (Act.keepsDuid w) (ws.map Prod.fst)).or (v.1.keepsDuid w) := by
          rw [List.map_cons, ← List.singleton_append, lastOf_append]
          cases hkeeps : v.1.keepsDuid w <;> simp [lastOf, hkeeps]
        rw [hfile, hfile₁, hlast]
        cases lastOf (Act.keepsDuid w) (ws.map Prod.fst) <;> rfl

end

/-! ### Runs -/

section

variable {b : Build} {s s' : Sys} {i : ℕ} {n : ℤ} {w mac : CStr}

/-- A report keeps the DUID as the session says. -/
theorem keepsDuid_told (r : Report) :
  (r.act? b n (some w)).bind (Act.keepsDuid w) = r.duid?.map id
  := by
  cases r with
  | duid isKept =>
      cases isKept with
      | true => apply if_pos rfl
      | false => apply if_pos rfl
  | _ => rfl

theorem keepsDuid_of_not_isReport {a : Act} (h : a.isReport n (some w) = false) :
  a.keepsDuid w = none
  := by
  cases a with
  | generateDuidFile w' | removeDuidFile w' =>
      apply if_neg
      rintro rfl
      simp [Act.isReport] at h
  | _ => rfl

/-- A run renames no entry and keeps the PSM count. -/
theorem names_of_run {ls : List Turn} (hs : Numbered s)
    (hturns : Throughout (Turn.next b) SendingTurn ls s) (hrun : run (Turn.next b) ls s = some s') :
  s'.pppIfCount = s.pppIfCount ∧ ∀ j, (s'.table j).info.name = (s.table j).info.name
  := by
  have hend : Numbered s' ∧ s'.pppIfCount = s.pppIfCount ∧
      ∀ j, (s'.table j).info.name = (s.table j).info.name := by
    apply run_invariant (I := fun s₁ => Numbered s₁ ∧ s₁.pppIfCount = s.pppIfCount ∧
      ∀ j, (s₁.table j).info.name = (s.table j).info.name) _ ⟨hs, rfl, fun _ => rfl⟩ hturns hrun
    rintro l s₁ s₂ ⟨hnumbered, hcount, hnames⟩ hl hnext
    obtain ⟨r, hends⟩ := Turn.next_ends hl.2 hnext
    have hwatched : s₁.Watches 0 none := by
      rintro w ⟨⟩
    obtain ⟨hs, -, hfollows⟩ := Turn.follows hl.2 hnumbered hl.1 hnext hwatched
    refine ⟨hends.numbered hnumbered hl.1, hends.pppIfCount.trans hcount, ?_⟩
    intro j
    rw [hfollows.names, hnames]
  exact hend.2

/-- As long as the WAN manager was told last that IPv6CP is up, the DUID with the hardware address is
in the file of the interface, whatever was done for the other interfaces. -/
theorem duid_on_disk {t : Thread} {ω : Answers} {psm : CStr → Option CStr} {k : ℕ} {ls : List Turn}
    {ws : List (Act × DiskAnswers)} {disk : Tree}
    (hω : ∀ k, ω k (.psmGet psmPppManagerPppIfCount) = true)
    (hinit : (machine t).exec ω (backEndManagerInitialize b) 0 (Sys.blank psm) = .ok ((), s, k))
    (hturns : Throughout (Turn.next b) SendingTurn ls s) (hrun : run (Turn.next b) ls s = some s')
    (hi : i < s.pppIfCount.toNat)
    (hnames : ∀ j < s.pppIfCount.toNat, NamesDirectory (s.table j).info.name)
    (hdiffer : ∀ j < s.pppIfCount.toNat, i ≠ j → (s.table j).info.name ≠ (s.table i).info.name)
    (hws : ws.map Prod.fst = s'.acts) (hworks : ∀ v ∈ ws, v.2.Works)
    (hdisk : Disk.Ready (s.table i).info.name mac disk) (hmac : IsAddress mac) :
  ∃ disk', run Act.onDisk ws disk = some disk' ∧
    (lastOf (statusTold (i + 1 : ℕ) (pppIpv6cpStatusParamName b)) s'.acts = some up →
      disk' (duidPlace (s.table i).info.name) = some (.file (duidOf mac)))
  := by
  have hwatched : s.Watches i (some (s.table i).info.name) := by
    rintro w ⟨⟩
    exact ⟨rfl, hdiffer⟩
  have hinitial := initial_of_initialize hω hinit
  have hsession := hasSession_of_initialize hω hinit hwatched
  obtain ⟨hss, -, hends, hreported⟩ := hsession.run hinitial.acts hturns hrun
  obtain ⟨hcount, hkept⟩ := names_of_run hinitial.toNumbered hturns hrun
  have howned : ∀ v ∈ ws, ∀ w', v.1.duidName = some w' → NamesDirectory w' := by
    intro v hv w' hw'
    have hmem : v.1 ∈ s'.acts := by
      rw [← hws]
      apply List.mem_map_of_mem hv
    obtain ⟨j, hj, rfl⟩ := hends.duids v.1 hmem w' hw'
    rw [hcount] at hj
    rw [hkept]
    apply hnames j hj
  obtain ⟨disk', hdisk', hfile⟩ := run_onDisk hdisk (hnames i hi) hmac hworks howned
  refine ⟨disk', hdisk', ?_⟩
  intro htold
  rw [← lastOf_reported _ _ (fun _ => statusTold_of_not_isReport), hreported,
    lastOf_reports _ ipv6cp_told] at htold
  obtain ⟨v, hv, hup⟩ := Option.map_eq_some_iff.mp htold
  obtain rfl := statusText_eq_up hup
  rw [hfile, hws, ← lastOf_reported _ _ (fun _ => keepsDuid_of_not_isReport), hreported,
    lastOf_reports _ keepsDuid_told, duid_of_ipv6cp hv]
  rfl

end

/-- The text of a hardware address. -/
def someAddress : CStr := "02:10:18:01:02:03\n".toList

/-- A disk with the hardware address, on which no interface has a directory. -/
def freshDisk : Tree := fun p =>
  if p = dibblerPlace then some .directory
  else if p = addressPlace then some (.file someAddress)
  else none

theorem ready_freshDisk :
  Disk.Ready ['1'] someAddress freshDisk
  where
    dibbler := rfl
    address := by
      decide +kernel
    directory := by
      have hnone : freshDisk (directoryPlace ['1']) = none := by
        decide +kernel
      intro content
      rw [hnone]
      rintro ⟨⟩
    file := by
      decide +kernel

theorem duid_on_disk_up :
  ∃ s s' k disk', (machine .dataModel).exec (workingOutside 1 none []).answers
      (backEndManagerInitialize (plainBuild false)) 0 (Sys.blank (freshState 1).psm) =
        .ok ((), s, k) ∧
    run (Turn.next (plainBuild false)) sessionTurns s = some s' ∧
    run Act.onDisk (s'.acts.map fun a => (a, ⟨true, true, true, true⟩)) freshDisk = some disk' ∧
    disk' (duidPlace ['1']) = some (.file "00:03:00:01:02:10:18:01:02:03\n".toList)
  := by
  have hend : afterSessionTurns.map (fun r => decide (r.1.pppIfCount.toNat = 1 ∧
      (r.1.table 0).info.name = ['1'] ∧ lastOf (statusTold (0 + 1 : ℕ)
        (pppIpv6cpStatusParamName (plainBuild false))) r.2.acts = some up)) = some true := by
    decide +kernel
  obtain ⟨s, s', k, hinit, hrun, hfacts⟩ := exists_run_sessionTurns hend
  obtain ⟨hcount, hname, htold⟩ := of_decide_eq_true hfacts
  dsimp only at hcount hname htold
  have hnames : ∀ j < s.pppIfCount.toNat, NamesDirectory (s.table j).info.name := by
    intro j hj
    obtain rfl : j = 0 := by
      omega
    rw [hname]
    refine ⟨⟨?_, ?_, ?_, ?_⟩, ?_⟩ <;> decide
  have hdiffer : ∀ j < s.pppIfCount.toNat, 0 ≠ j →
      (s.table j).info.name ≠ (s.table 0).info.name := by
    intro j hj hne
    omega
  have hws : (s'.acts.map fun a => (a, (⟨true, true, true, true⟩ : DiskAnswers))).map Prod.fst =
      s'.acts := by
    rw [List.map_map]
    apply List.map_id'
  have hworks : ∀ v ∈ s'.acts.map fun a => (a, (⟨true, true, true, true⟩ : DiskAnswers)),
      v.2.Works := by
    intro v hv
    obtain ⟨a, -, rfl⟩ := List.mem_map.mp hv
    exact ⟨rfl, rfl, rfl, rfl⟩
  have hready : Disk.Ready (s.table 0).info.name someAddress freshDisk := by
    rw [hname]
    apply ready_freshDisk
  have hduid : duidOf someAddress = "00:03:00:01:02:10:18:01:02:03\n".toList := by
    decide +kernel
  have hall := duid_on_disk (fun _ => rfl) hinit (sendingTurn_sessionTurns s) hrun (by omega) hnames
    hdiffer hws hworks hready ⟨by decide +kernel, by decide +kernel⟩
  obtain ⟨disk', hdisk', hfile⟩ := hall
  rw [hname, hduid] at hfile
  exact ⟨s, s', k, disk', hinit, hrun, hdisk', hfile htold⟩

end PppManager
