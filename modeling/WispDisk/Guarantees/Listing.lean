import WispDisk.Cli.Inquiries
import WispDisk.Cli.Inventory
import WispDisk.Guarantees.DeletionTarget

/-! A listing asks and changes nothing; it reports every adapter that answers and every disk of its
driver, in order, and it fails only when the driver or the search for a physical disk fails: what
happens to volumes and mount points cannot fail it. -/
namespace WispDisk.Cli
open Procedures Procedure
set_option autoImplicit false

/-! ## One disk -/

/-- What is reported of an entry is what the driver says of it; its physical disk is one that a
search for its address has found, or none. -/
structure ReportsDisk (adapter : OpenAdapter) (t : Trace) (disk : InventoryDisk)
    (entry : DiskState) : Prop where
  reported : disk = InventoryDisk.ofEntry entry disk.physicalDisk disk.mountPoints
  found : ∃ u, u <:+: t ∧
    Runs (findPhysicalDisk (diskLocation adapter entry)) u (.ok disk.physicalDisk)

theorem ReportsDisk.within {adapter : OpenAdapter} {t u : Trace} {disk : InventoryDisk}
    {entry : DiskState} (h : ReportsDisk adapter t disk entry) (hwithin : t <:+: u) :
    ReportsDisk adapter u disk entry := by
  obtain ⟨v, hv, hfound⟩ := h.found
  exact ⟨h.reported, v, hv.trans hwithin, hfound⟩

/-- The discovery of mount points never fails, so only the search can. -/
theorem collectDisk_runs {adapter : OpenAdapter} {entry : DiskState} {t : Trace}
    {result : Except Error InventoryDisk}
    (hrun : Runs (InventoryDisk.collect adapter entry) t result) :
    (∃ disk, result = .ok disk ∧ ReportsDisk adapter t disk entry) ∨
      ∃ error, result = .error error ∧
        Runs (findPhysicalDisk (diskLocation adapter entry)) t (.error error) := by
  rcases Runs.tryBind_iff.mp hrun with ⟨error, hfailed, rfl⟩ | ⟨number, t₁, t₂, hfound, hrest, rfl⟩
  · exact Or.inr ⟨error, rfl, hfailed⟩
  · left
    cases number with
    | none =>
      obtain ⟨rfl, rfl⟩ := Runs.done_iff.mp hrest
      rw [List.append_nil]
      exact ⟨_, rfl, rfl, t₁, List.infix_refl t₁, hfound⟩
    | some number =>
      obtain ⟨points, t₃, t₄, _, hdone, rfl⟩ := Runs.bind_iff.mp hrest
      obtain ⟨rfl, rfl⟩ := Runs.done_iff.mp hdone
      exact ⟨_, rfl, rfl, t₁, (List.prefix_append t₁ _).isInfix, hfound⟩

/-! ## One adapter -/

theorem collectDisks_runs {adapter : OpenAdapter} {entries : List DiskState}
    {disks : List InventoryDisk} {t : Trace} {result : Except Error (List InventoryDisk)}
    (hrun : Runs (Procedure.tryFold (fun disks entry =>
      (InventoryDisk.collect adapter entry).tryBind fun disk => .done (.ok (disks ++ [disk])))
        disks entries) t result) :
    (∃ found, result = .ok (disks ++ found) ∧ List.Forall₂ (ReportsDisk adapter t) found entries) ∨
      ∃ error before location failing, result = .error error ∧ t = before ++ failing ∧
        Runs (findPhysicalDisk location) failing (.error error) := by
  induction entries generalizing disks t with
  | nil =>
    obtain ⟨rfl, rfl⟩ := Runs.done_iff.mp hrun
    exact Or.inl ⟨[], by rw [List.append_nil], .nil⟩
  | cons entry entries ih =>
    obtain ⟨r, t₁, t₂, hfirst, hrest, rfl⟩ := Runs.bind_iff.mp hrun
    rcases Runs.tryBind_iff.mp hfirst with ⟨error, hfailed, rfl⟩ | ⟨disk, t₃, t₄, hdisk, hdone, rfl⟩
    · obtain ⟨rfl, rfl⟩ := Runs.done_iff.mp hrest
      rcases collectDisk_runs hfailed with ⟨_, hok, _⟩ | ⟨error', herror, hsearch⟩
      · cases hok
      · cases herror
        rw [List.append_nil]
        exact Or.inr ⟨error, [], _, t₁, rfl, rfl, hsearch⟩
    · obtain ⟨rfl, rfl⟩ := Runs.done_iff.mp hdone
      rw [List.append_nil]
      rcases collectDisk_runs hdisk with ⟨disk', hok, hreports⟩ | ⟨_, herror, _⟩
      · cases hok
        rcases ih hrest with ⟨found, rfl, hfound⟩ |
          ⟨error, before, location, failing, rfl, rfl, hsearch⟩
        · left
          refine ⟨disk :: found, by rw [List.append_assoc, List.singleton_append], .cons ?_ ?_⟩
          · exact hreports.within (List.prefix_append t₃ t₂).isInfix
          · exact hfound.imp fun _ _ h => h.within (List.suffix_append t₃ t₂).isInfix
        · right
          exact ⟨error, t₃ ++ before, location, failing, rfl, by rw [List.append_assoc], hsearch⟩
      · cases herror

/-- An adapter is reported with the state that its driver has answered with. -/
structure ReportsAdapter (t : Trace) (listed : InventoryAdapter)
    (source : OpenAdapter × StateResponse) : Prop where
  answered : (⟨.sendListState source.1.handle, .ok source.2⟩ : WindowsEvent) ∈ t
  valid : OpenAdapter.isValidState source.2 = true
  reported : listed = InventoryAdapter.ofState source.1 source.2 listed.disks
  disks : List.Forall₂ (ReportsDisk source.1 t) listed.disks (listedDisks source.2)

theorem ReportsAdapter.within {t u : Trace} {listed : InventoryAdapter}
    {source : OpenAdapter × StateResponse} (h : ReportsAdapter t listed source)
    (hwithin : t <:+: u) : ReportsAdapter u listed source :=
  ⟨hwithin.subset h.answered, h.valid, h.reported, h.disks.imp fun _ _ hd => hd.within hwithin⟩

/-- The last calls of a trace are those of a query of the driver, or of the search for a physical
disk, that has failed. -/
def FailsBy (t : Trace) (error : Error) : Prop :=
  ∃ before failing, t = before ++ failing ∧
    ((∃ adapter : OpenAdapter, Runs adapter.requireRecovery failing (.error error) ∨
      Runs adapter.state failing (.error error)) ∨
    ∃ location, Runs (findPhysicalDisk location) failing (.error error))

theorem FailsBy.after {t : Trace} {error : Error} (h : FailsBy t error) (u : Trace) :
    FailsBy (u ++ t) error := by
  obtain ⟨before, failing, rfl, hfailing⟩ := h
  exact ⟨u ++ before, failing, by rw [List.append_assoc], hfailing⟩

theorem state_runs {adapter : OpenAdapter} {state : StateResponse} {t : Trace}
    (hrun : Runs adapter.state t (.ok state)) :
    (⟨.sendListState adapter.handle, .ok state⟩ : WindowsEvent) ∈ t ∧
      OpenAdapter.isValidState state = true := by
  rcases Runs.tryBind_iff.mp hrun with ⟨_, _, h⟩ | ⟨response, t₁, t₂, hask, hrest, rfl⟩
  · cases h
  · cases hvalid : OpenAdapter.isValidState response with
    | false =>
      rw [hvalid] at hrest
      exact absurd (Runs.done_iff.mp hrest).2 fun h => by cases h
    | true =>
      rw [hvalid] at hrest
      obtain ⟨rfl, hresponse⟩ := Runs.done_iff.mp hrest
      cases hresponse
      rw [Runs.ask_iff.mp hask]
      exact ⟨List.mem_cons_self, hvalid⟩

theorem collectAdapter_runs {adapter : OpenAdapter} {t : Trace}
    {result : Except Error InventoryAdapter}
    (hrun : Runs (InventoryAdapter.collect adapter) t result) :
    (∃ listed state, result = .ok listed ∧ ReportsAdapter t listed (adapter, state)) ∨
      ∃ error, result = .error error ∧ FailsBy t error := by
  rcases Runs.tryBind_iff.mp hrun with ⟨error, hfailed, rfl⟩ | ⟨_, t₁, t₂, _, hrest, rfl⟩
  · exact Or.inr ⟨error, rfl, [], t, rfl, Or.inl ⟨adapter, Or.inl hfailed⟩⟩
  rcases Runs.tryBind_iff.mp hrest with ⟨error, hfailed, rfl⟩ | ⟨state, t₃, t₄, hstate, hlist, rfl⟩
  · exact Or.inr ⟨error, rfl, t₁, t₂, rfl, Or.inl ⟨adapter, Or.inr hfailed⟩⟩
  rcases Runs.tryBind_iff.mp hlist with ⟨error, hfailed, rfl⟩ | ⟨disks, t₅, t₆, hdisks, hdone, rfl⟩
  · rcases collectDisks_runs hfailed with ⟨_, hok, _⟩ |
      ⟨error', before, location, failing, herror, rfl, hsearch⟩
    · cases hok
    · cases herror
      refine Or.inr ⟨error, rfl, t₁ ++ (t₃ ++ before), failing, ?_, Or.inr ⟨location, hsearch⟩⟩
      rw [List.append_assoc, List.append_assoc]
  · obtain ⟨rfl, rfl⟩ := Runs.done_iff.mp hdone
    rcases collectDisks_runs hdisks with ⟨found, hok, hfound⟩ | ⟨_, _, _, _, herror, _⟩
    · cases hok
      obtain ⟨hanswered, hvalid⟩ := state_runs hstate
      refine Or.inl ⟨_, state, rfl, ?_, hvalid, rfl, ?_⟩
      · exact List.mem_append_right _ (List.mem_append_left _ hanswered)
      · refine hfound.imp fun _ _ h => h.within ?_
        rw [List.append_nil, ← List.append_assoc]
        exact (List.suffix_append _ t₅).isInfix
    · cases herror

/-! ## The scan -/

/-- What the scan of the ports has found at one of them, with the state of the adapter there. -/
structure Scanned (t : Trace) (scan : ℕ × Option (OpenAdapter × StateResponse)) : Prop where
  opened : ∃ u, u <:+: t ∧ Runs (adapterAt scan.1) u (scan.2.map Prod.fst)

theorem Scanned.within {t u : Trace} {scan : ℕ × Option (OpenAdapter × StateResponse)}
    (h : Scanned t scan) (hwithin : t <:+: u) : Scanned u scan := by
  obtain ⟨v, hv, hopened⟩ := h.opened
  exact ⟨v, hv.trans hwithin, hopened⟩

theorem adapterAt_port {port : ℕ} {t : Trace} {adapter : OpenAdapter}
    (hrun : Runs (adapterAt port) t (some adapter)) : adapter.portNumber = UInt8.ofNat port := by
  obtain ⟨answer, u, rfl, hrest⟩ := Runs.call_iff.mp hrun
  cases answer with
  | error code => cases (Runs.done_iff.mp hrest).2
  | ok handle =>
    obtain ⟨version, t₁, t₂, _, hdone, rfl⟩ := Runs.bind_iff.mp hrest
    cases version with
    | error error => cases (Runs.done_iff.mp hdone).2
    | ok response => rw [Option.some.inj (Runs.done_iff.mp hdone).2]

/-- The listing from some ports on: its account of the ports, or the failure of a query. -/
def Accounts (t : Trace) (ports : List ℕ) (inventory : List InventoryAdapter) :
    Except Error (List InventoryAdapter) → Prop
  | .ok listed => ∃ (found : List InventoryAdapter)
      (scans : List (ℕ × Option (OpenAdapter × StateResponse))),
      listed = inventory ++ found ∧ scans.map Prod.fst = ports ∧
      (∀ scan ∈ scans, Scanned t scan) ∧
      List.Forall₂ (ReportsAdapter t) found (scans.filterMap Prod.snd)
  | .error error => FailsBy t error

theorem collectFrom_runs {ports : List ℕ} {inventory : List InventoryAdapter} {t : Trace}
    {result : Except Error (List InventoryAdapter)}
    (hrun : Runs (Procedure.tryFold (fun inventory port => (adapterAt port).bind fun
      | none => .done (.ok inventory)
      | some adapter => (InventoryAdapter.collect adapter).tryBind fun listed =>
        .done (.ok (inventory ++ [listed]))) inventory ports) t result) :
    Accounts t ports inventory result := by
  induction ports generalizing inventory t with
  | nil =>
    obtain ⟨rfl, rfl⟩ := Runs.done_iff.mp hrun
    exact ⟨[], [], (List.append_nil _).symm, rfl, List.forall_mem_nil _, .nil⟩
  | cons port ports ih =>
    obtain ⟨r, t₁, t₂, hround, hrest, rfl⟩ := Runs.bind_iff.mp hrun
    obtain ⟨found, t₃, t₄, hopened, hbody, rfl⟩ := Runs.bind_iff.mp hround
    cases found with
    | none =>
      obtain ⟨rfl, rfl⟩ := Runs.done_iff.mp hbody
      have hlater := ih hrest
      rw [List.append_nil]
      cases result with
      | error error => exact FailsBy.after hlater t₃
      | ok listed =>
        obtain ⟨found, scans, hlisted, hports, hscans, hreports⟩ := hlater
        refine ⟨found, (port, none) :: scans, hlisted, ?_, ?_, ?_⟩
        · rw [List.map_cons, hports]
        · refine List.forall_mem_cons.mpr ⟨⟨t₃, (List.prefix_append t₃ t₂).isInfix, hopened⟩, ?_⟩
          exact fun scan hscan => (hscans scan hscan).within (List.suffix_append t₃ t₂).isInfix
        · exact hreports.imp fun _ _ h => h.within (List.suffix_append t₃ t₂).isInfix
    | some adapter =>
      rcases Runs.tryBind_iff.mp hbody with ⟨error, hfailed, rfl⟩ |
        ⟨listed, t₅, t₆, hlisted, hdone, rfl⟩
      · obtain ⟨rfl, rfl⟩ := Runs.done_iff.mp hrest
        rcases collectAdapter_runs hfailed with ⟨_, _, hok, _⟩ | ⟨error', herror, hfails⟩
        · cases hok
        · cases herror
          rw [List.append_nil]
          exact hfails.after t₃
      · obtain ⟨rfl, rfl⟩ := Runs.done_iff.mp hdone
        rcases collectAdapter_runs hlisted with ⟨listed', state, hok, hreport⟩ | ⟨_, herror, _⟩
        · cases hok
          have hlater := ih hrest
          rw [List.append_nil]
          cases result with
          | error error => exact FailsBy.after hlater _
          | ok all =>
            obtain ⟨found, scans, hall, hports, hscans, hreports⟩ := hlater
            refine ⟨listed :: found, (port, some (adapter, state)) :: scans, ?_, ?_, ?_, ?_⟩
            · rw [hall, List.append_assoc, List.singleton_append]
            · rw [List.map_cons, hports]
            · refine List.forall_mem_cons.mpr ⟨⟨t₃, ?_, hopened⟩, fun scan hscan => ?_⟩
              · exact ((List.prefix_append t₃ t₅).trans (List.prefix_append _ t₂)).isInfix
              · exact (hscans scan hscan).within (List.suffix_append _ t₂).isInfix
            · refine .cons (hreport.within ?_) ?_
              · exact List.infix_append t₃ t₅ t₂
              · exact hreports.imp fun _ _ h => h.within (List.suffix_append _ t₂).isInfix
        · cases herror

/-- Reports of a scan come in the order of the ports. -/
theorem ports_of_reports {t : Trace} {found : List InventoryAdapter}
    {scans : List (ℕ × Option (OpenAdapter × StateResponse))}
    (hreports : List.Forall₂ (ReportsAdapter t) found (scans.filterMap Prod.snd))
    (hscans : ∀ scan ∈ scans, Scanned t scan)
    (hordered : (scans.map Prod.fst).Pairwise (· < ·)) (hbelow : ∀ scan ∈ scans, scan.1 < 256) :
    (found.map fun listed => listed.port.toNat).Pairwise (· < ·) := by
  have hports : found.map (fun listed => listed.port.toNat) =
      (scans.filter fun scan => scan.2.isSome).map Prod.fst := by
    clear hordered
    induction scans generalizing found with
    | nil =>
      cases hreports
      rfl
    | cons scan scans ih =>
      obtain ⟨port, found'⟩ := scan
      have htail := fun scan hscan => hscans scan (List.mem_cons_of_mem _ hscan)
      have hrest := fun scan hscan => hbelow scan (List.mem_cons_of_mem _ hscan)
      cases found' with
      | none => exact ih hreports htail hrest
      | some source =>
        cases hreports with
        | cons hreport hreports =>
          obtain ⟨u, _, hopened⟩ := (hscans _ List.mem_cons_self).opened
          have hport := adapterAt_port hopened
          have hlt : port < 256 := hbelow _ List.mem_cons_self
          rw [List.map_cons, ih hreports htail hrest, hreport.reported]
          show source.1.portNumber.toNat :: _ = port :: _
          rw [hport, UInt8.toNat_ofNat_of_lt' hlt]
  rw [hports]
  exact hordered.sublist ((List.filter_sublist).map Prod.fst)

/-! ## The listing -/

theorem collectInventory_inquires : Inquires collectInventory := by
  refine forAdapters_inquires _ fun inventory adapter => only_tryBind ?_ fun _ => only_done _
  refine only_tryBind (requireRecovery_inquires adapter) fun _ => ?_
  refine only_tryBind (state_inquires adapter) fun state => ?_
  refine only_tryBind (only_tryFold (fun disks entry => ?_) _ _) fun _ => only_done _
  refine only_tryBind (only_tryBind (findPhysicalDisk_inquires _) fun number => ?_) fun _ =>
    only_done _
  cases number with
  | none => exact only_done _
  | some number =>
    refine only_bind (only_bind (volumesForDisk_inquires number) fun volumes => ?_) fun _ =>
      only_done _
    cases volumes with
    | error error => exact only_done _
    | ok volumes => exact only_done _

/-- Every run of the listing asks only. It ends with an account of all ports, in which every adapter
that opens is reported once with its driver's answer and every disk of that answer, or with the
error of the query of a driver or the search for a physical disk that it made last. -/
theorem collectInventory_accounts {t : Trace} {result : Except Error (List InventoryAdapter)}
    (hrun : Runs collectInventory t result) :
    (∀ e ∈ t, e.call.Inquiry) ∧
      Accounts t (List.range scsiPortLimit) [] result ∧
      ∀ listed, result = .ok listed →
        (listed.map fun adapter => adapter.port.toNat).Pairwise (· < ·) := by
  have haccounts : Accounts t (List.range scsiPortLimit) [] result := collectFrom_runs hrun
  refine ⟨Runs.only hrun collectInventory_inquires, haccounts, ?_⟩
  rintro listed rfl
  obtain ⟨found, scans, rfl, hports, hscans, hreports⟩ := haccounts
  refine ports_of_reports hreports hscans (hports ▸ List.pairwise_lt_range) fun scan hscan => ?_
  exact List.mem_range.mp (hports ▸ List.mem_map_of_mem hscan)

/-- One adapter with one disk, whose volume is mounted at `E:\`. -/
theorem oneDisk_accounts :
    let t := (attaching ++ ((opening 86).drop 2).take 10) ++ absentPorts
    let entry : DiskState := { disk := { deviceId := 5 }, state := 1 }
    let disk := InventoryDisk.ofEntry entry (some 4) (some [[69, 58, 92]])
    let listed := InventoryAdapter.ofState ⟨1, 0⟩ (inventory 5) [disk]
    (∀ e ∈ t, e.call.Inquiry) ∧ Accounts t (List.range scsiPortLimit) [] (.ok [listed]) ∧
      ∀ all, (.ok [listed] : Except Error _) = .ok all →
        (all.map fun adapter => adapter.port.toNat).Pairwise (· < ·) := by
  refine collectInventory_accounts ?_
  unfold collectInventory forAdapters scsiPortLimit
  rw [List.range_succ_eq_map]
  refine Runs.bind_iff.mpr ⟨.ok _, _, absentPorts, Runs.of_replay (by rfl),
    tryFold_same (fun port => ?_) _, rfl⟩
  refine Runs.bind_iff.mpr ⟨none, [_], [], ?_, .done _, rfl⟩
  exact Runs.call_iff.mpr ⟨.error 2, [], rfl, .done _⟩

end WispDisk.Cli
