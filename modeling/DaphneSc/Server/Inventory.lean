import DaphneSc.Server.StatusCollector

/-!
# The inventory of the I2C buses

The buses come from the device files, the devices from the entries of the system, and the clock chip
from the check that has found it. However the three are mixed, each bus is listed once and in order,
and on it each device once and in order; the clock chip prevails over an entry at its address.
-/

namespace DaphneSc.Server.StatusCollector

open ClockChipTool Machine Preflight Program SlowControl

/-! ## Buses -/

/-- A device on a bus of the map. -/
def Holds (busMap : BusMap) (bus : UInt8) (device : I2cDeviceStatus) : Prop :=
  ∃ entry, busMap[bus]? = some entry ∧ device ∈ entry.devices

/-- Every bus has its own number and path, and no two devices on it have one address. -/
def WellKept (busMap : BusMap) : Prop :=
  ∀ bus entry, busMap[bus]? = some entry → entry.bus = bus ∧ entry.path = i2cDevPath bus ∧
    (entry.devices.map (·.address)).Nodup

variable {busMap : BusMap} {bus other : UInt8} {device : I2cDeviceStatus}
  {change : List I2cDeviceStatus → List I2cDeviceStatus}

theorem getElem?_withBus : (withBus busMap bus change)[other]? =
    if bus = other then some { busMap[bus]?.getD (emptyBus bus) with
      devices := change (busMap[bus]?.getD (emptyBus bus)).devices }
    else busMap[other]? := by
  rw [withBus, Std.TreeMap.getElem?_insert]
  simp only [Std.compare_eq_iff_eq]

/-- The devices of a bus, none if it is not in the map. -/
def devicesOf (busMap : BusMap) (bus : UInt8) : List I2cDeviceStatus :=
  (busMap[bus]?.getD (emptyBus bus)).devices

theorem mem_devicesOf : device ∈ devicesOf busMap bus ↔ Holds busMap bus device := by
  unfold devicesOf Holds
  cases busMap[bus]? with
  | none => simp [emptyBus]
  | some entry => simp

theorem holds_withBus : Holds (withBus busMap bus change) other device ↔
    if bus = other then device ∈ change (devicesOf busMap bus) else Holds busMap other device := by
  unfold Holds
  rw [getElem?_withBus]
  split
  · simp [devicesOf]
  · rfl

theorem wellKept_withBus (h : WellKept busMap)
    (hchange : ((devicesOf busMap bus).map (·.address)).Nodup →
      ((change (devicesOf busMap bus)).map (·.address)).Nodup) :
        WellKept (withBus busMap bus change) := by
  intro other entry hentry
  rw [getElem?_withBus] at hentry
  split at hentry
  · rename_i heq
    subst heq
    cases hentry
    unfold devicesOf at hchange
    cases hfound : busMap[bus]? with
    | none =>
      rw [hfound] at hchange
      exact ⟨rfl, rfl, hchange List.nodup_nil⟩
    | some found =>
      rw [hfound] at hchange
      obtain ⟨hbus, hpath, hnodup⟩ := h bus found hfound
      exact ⟨hbus, hpath, hchange hnodup⟩
  · exact h other entry hentry

theorem isSome_withBus : (withBus busMap bus change)[other]?.isSome = true ↔
    bus = other ∨ busMap[other]?.isSome = true := by
  rw [getElem?_withBus]
  split <;> simp [*]

/-! ## Registered devices -/

/-- The map after these devices have been added to these buses. -/
structure Filled (candidates : List UInt8) (registered : List (UInt8 × UInt8))
    (names : UInt8 × UInt8 → Option Text) (busMap : BusMap) : Prop where
  kept : WellKept busMap
  buses : ∀ bus, busMap[bus]?.isSome = true ↔
    bus ∈ candidates ∨ ∃ address, (bus, address) ∈ registered
  devices : ∀ bus device, Holds busMap bus device ↔ ∃ address, (bus, address) ∈ registered ∧
    device = registeredDevice address (names (bus, address))

theorem mem_upsertI2cDevice {devices : List I2cDeviceStatus} {chip : I2cDeviceStatus}
    (hnodup : (devices.map (·.address)).Nodup) :
    device ∈ upsertI2cDevice devices chip ↔
      device = chip ∨ device ∈ devices ∧ device.address ≠ chip.address := by
  induction devices with
  | nil => simp [upsertI2cDevice]
  | cons existing devices ih =>
    obtain ⟨hfirst, hrest⟩ := List.nodup_cons.mp hnodup
    rw [upsertI2cDevice]
    split
    · rename_i haddress
      have hother (found : I2cDeviceStatus) (hfound : found ∈ devices) :
          found.address ≠ chip.address := by
        rw [← haddress]
        intro heq
        exact hfirst (List.mem_map.mpr ⟨found, hfound, heq⟩)
      rw [List.mem_cons, List.mem_cons]
      constructor
      · rintro (rfl | hmem)
        · exact .inl rfl
        · exact .inr ⟨.inr hmem, hother device hmem⟩
      · rintro (rfl | ⟨rfl | hmem, hne⟩)
        · exact .inl rfl
        · exact absurd haddress hne
        · exact .inr hmem
    · rename_i haddress
      rw [List.mem_cons, ih hrest, List.mem_cons]
      constructor
      · rintro (rfl | rfl | ⟨hmem, hne⟩)
        · exact .inr ⟨.inl rfl, haddress⟩
        · exact .inl rfl
        · exact .inr ⟨.inr hmem, hne⟩
      · rintro (rfl | ⟨rfl | hmem, hne⟩)
        · exact .inr (.inl rfl)
        · exact .inl rfl
        · exact .inr (.inr ⟨hmem, hne⟩)

theorem nodup_upsertI2cDevice {devices : List I2cDeviceStatus} {chip : I2cDeviceStatus}
    (hnodup : (devices.map (·.address)).Nodup) :
    ((upsertI2cDevice devices chip).map (·.address)).Nodup := by
  induction devices with
  | nil => exact List.nodup_singleton _
  | cons existing devices ih =>
    obtain ⟨hfirst, hrest⟩ := List.nodup_cons.mp hnodup
    rw [upsertI2cDevice]
    split
    · rename_i haddress
      rw [List.map_cons, ← haddress]
      exact hnodup
    · rename_i haddress
      apply List.nodup_cons.mpr
      refine ⟨fun hmem ↦ ?_, ih hrest⟩
      obtain ⟨device, hdevice, hsame⟩ := List.mem_map.mp hmem
      rcases (mem_upsertI2cDevice hrest).mp hdevice with rfl | ⟨hold, -⟩
      · exact haddress hsame.symm
      · exact hfirst (List.mem_map.mpr ⟨device, hold, hsame⟩)

/-! ## Inventories -/

/-- A device on a bus is the clock chip, if that has been found there, or a registered one at
another address. -/
def OnBus (registered : List (UInt8 × UInt8)) (names : UInt8 × UInt8 → Option Text)
    (clockchip : Option (UInt8 × String)) (bus : UInt8) (device : I2cDeviceStatus) : Prop :=
  (∃ detail, clockchip = some (bus, detail) ∧ device = clockchipDevice detail) ∨
    ∃ address, (bus, address) ∈ registered ∧
      device = registeredDevice address (names (bus, address)) ∧
      ¬ ∃ detail, clockchip = some (bus, detail) ∧ address = 0x70

/-- The buses in order with all that is on them, each device once and in order. -/
structure Inventory (candidates : List UInt8) (registered : List (UInt8 × UInt8))
    (names : UInt8 × UInt8 → Option Text) (clockchip : Option (UInt8 × String))
    (buses : List I2cBusStatus) : Prop where
  ordered : buses.Pairwise (·.bus < ·.bus)
  paths : ∀ entry ∈ buses, entry.path = i2cDevPath entry.bus
  listed : ∀ bus, (∃ entry ∈ buses, entry.bus = bus) ↔ bus ∈ candidates ∨
    (∃ address, (bus, address) ∈ registered) ∨ ∃ detail, clockchip = some (bus, detail)
  devicesOrdered : ∀ entry ∈ buses, entry.devices.Pairwise (·.address < ·.address)
  devices : ∀ entry ∈ buses, ∀ device, device ∈ entry.devices ↔
    OnBus registered names clockchip entry.bus device

variable {candidates : List UInt8} {registered : List (UInt8 × UInt8)}
  {names : UInt8 × UInt8 → Option Text} {preflight : PreflightStatus}

/-- The map with the clock chip. -/
structure Complete (candidates : List UInt8) (registered : List (UInt8 × UInt8))
    (names : UInt8 × UInt8 → Option Text) (clockchip : Option (UInt8 × String))
    (busMap : BusMap) : Prop where
  kept : WellKept busMap
  buses : ∀ bus, busMap[bus]?.isSome = true ↔ bus ∈ candidates ∨
    (∃ address, (bus, address) ∈ registered) ∨ ∃ detail, clockchip = some (bus, detail)
  devices : ∀ bus device, Holds busMap bus device ↔ OnBus registered names clockchip bus device

theorem Filled.addClockchip (h : Filled candidates registered names busMap) :
    Complete candidates registered names (clockchipDetail preflight)
      (addClockchip preflight busMap) := by
  unfold StatusCollector.addClockchip
  cases clockchipDetail preflight with
  | none => exact ⟨h.kept, by simpa using h.buses, by simpa [OnBus] using h.devices⟩
  | some found =>
    obtain ⟨chipBus, detail⟩ := found
    dsimp only
    have hnodup : ((devicesOf busMap chipBus).map (·.address)).Nodup := by
      unfold devicesOf
      cases hentry : busMap[chipBus]? with
      | none => exact List.nodup_nil
      | some entry => exact (h.kept chipBus entry hentry).2.2
    refine ⟨wellKept_withBus h.kept nodup_upsertI2cDevice, fun bus ↦ ?_, fun bus device ↦ ?_⟩
    · rw [isSome_withBus, h.buses]
      simp only [Option.some.injEq, Prod.mk.injEq]
      constructor
      · rintro (rfl | hbus | hbus)
        · exact .inr (.inr ⟨detail, rfl, rfl⟩)
        · exact .inl hbus
        · exact .inr (.inl hbus)
      · rintro (hbus | hbus | ⟨-, rfl, -⟩)
        · exact .inr (.inl hbus)
        · exact .inr (.inr hbus)
        · exact .inl rfl
    · rw [holds_withBus]
      split
      · rename_i heq
        subst heq
        rw [mem_upsertI2cDevice hnodup, mem_devicesOf, h.devices]
        constructor
        · rintro (rfl | ⟨⟨address, hmem, rfl⟩, hne⟩)
          · exact .inl ⟨detail, rfl, rfl⟩
          · exact .inr ⟨address, hmem, rfl, fun ⟨_, _, heq⟩ ↦ hne heq⟩
        · rintro (⟨_, hsome, rfl⟩ | ⟨address, hmem, rfl, hnot⟩)
          · cases hsome
            exact .inl rfl
          · exact .inr ⟨⟨address, hmem, rfl⟩, fun heq ↦ hnot ⟨detail, rfl, heq⟩⟩
      · rename_i hne
        rw [h.devices]
        have hnone {address : UInt8} : ¬ ∃ text, some (chipBus, detail) = some (bus, text) ∧
            address = 0x70 := by
          rintro ⟨_, hsome, -⟩
          exact hne (Prod.mk.inj (Option.some.inj hsome)).1
        constructor
        · rintro ⟨address, hmem, rfl⟩
          exact .inr ⟨address, hmem, rfl, hnone⟩
        · rintro (⟨_, hsome, -⟩ | ⟨address, hmem, rfl, -⟩)
          · exact absurd (Prod.mk.inj (Option.some.inj hsome)).1 hne
          · exact ⟨address, hmem, rfl⟩

theorem Inventory.congr {registered' : List (UInt8 × UInt8)} {clockchip : Option (UInt8 × String)}
    {buses : List I2cBusStatus} (h : Inventory candidates registered names clockchip buses)
    (hsame : ∀ pair, pair ∈ registered ↔ pair ∈ registered') :
    Inventory candidates registered' names clockchip buses where
  ordered := h.ordered
  paths := h.paths
  listed := by simpa only [hsame] using h.listed
  devicesOrdered := h.devicesOrdered
  devices := by simpa only [OnBus, hsame] using h.devices

end DaphneSc.Server.StatusCollector
