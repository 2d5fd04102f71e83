import BleWsCentral.Mesh.Dbus

/-!
# Addresses for new nodes

`request_prov_data` gives out the addresses of the nodes that are added, one after the other. They are counted
up in a `u16` and never given back.

* `Provisioner.handle` — a call of the provisioner, with its blocking send.
* `Provisioner.provData` — what calls of the provisioner are answered with, until one of them panics.
* `provData_eq` — these are the numbers from the first address on.
* `provisioned_iff` — the only guard is that of the `u16`, so they are unicast addresses if and only if at most
  `0x7ffb` are asked for.
-/

namespace BleWsCentral.Mesh

/-! ## The provisioner -/

/-- What a call of the provisioner can panic with. -/
inductive ProvisionerPanic
  /-- `assert!(unicast_count == 1)` -/
  | unicastCount
  /-- `expect("Addr overflow")` -/
  | addrOverflow
  /-- `blocking_send(…).unwrap()` -/
  | closedTx
deriving DecidableEq

/-- `Provisioner`, with the events that were sent on `tx`. -/
structure Provisioner where
  tx : List Event
  addrCnt : UInt16
deriving DecidableEq

/-- A call of the provisioner. -/
inductive ProvisionerCall
  | scanResult (rssi : Int16) (data : List UInt8)
  | requestProvData (unicastCount : UInt8)
  | addNodeComplete (uuid : List UInt8) (unicastAddr : UInt16) (unicastAddrCount : UInt8)
  | addNodeFailed (uuid : List UInt8) (reason : String)
deriving DecidableEq

namespace Provisioner

/-- `Provisioner::new`. -/
def new : Provisioner where
  tx := []
  addrCnt := 0x0005

/-- `u16::checked_add`. -/
def checkedAdd (a b : UInt16) : Option UInt16 := if a.toNat + b.toNat < 2 ^ 16 then some (a + b) else none

/-- The blocking send of an event, if there is one; `rx` says if the receiver is there. -/
def blockingSend (self : Provisioner) (rx : Bool) (event : Option Event) :
    Except ProvisionerPanic Provisioner :=
  match event with
  | none => .ok self
  | some event => if rx then .ok { self with tx := self.tx ++ [event] } else .error .closedTx

/-- `Provisioner::request_prov_data`. -/
def requestProvData (self : Provisioner) (unicastCount : UInt8) :
    Except ProvisionerPanic ((NetIndex × MeshAddr) × Provisioner) :=
  if unicastCount = 1 then
    let addr := self.addrCnt
    match checkedAdd self.addrCnt 1 with
    | none => .error .addrOverflow
    | some addrCnt => .ok ((mainNetIndex, addr), { self with addrCnt })
  else .error .unicastCount

/-- A call, with what it returns. -/
def handle (self : Provisioner) (rx : Bool) :
    ProvisionerCall → Except ProvisionerPanic (Option (NetIndex × MeshAddr) × Provisioner)
  | .scanResult rssi data => do
      let self ← self.blockingSend rx (scanResult rssi data)
      .ok (none, self)
  | .requestProvData unicastCount => do
      let (data, self) ← self.requestProvData unicastCount
      .ok (some data, self)
  | .addNodeComplete uuid unicastAddr _ => do
      let self ← self.blockingSend rx (addNodeComplete uuid unicastAddr)
      .ok (none, self)
  | .addNodeFailed uuid reason => do
      let self ← self.blockingSend rx (addNodeFailed uuid reason)
      .ok (none, self)

/-- What calls of `request_prov_data` return among others, until a call panics. -/
def provData (self : Provisioner) : List (Bool × ProvisionerCall) → List (NetIndex × MeshAddr)
  | [] => []
  | (rx, call) :: calls =>
      match self.handle rx call with
      | .error _ => []
      | .ok (data, self) => data.toList ++ self.provData calls

end Provisioner

/-! ## What is returned -/

namespace ProvisionerCall

/-- A call that asks for an address. -/
def requests : ProvisionerCall → Bool
  | .requestProvData _ => true
  | _ => false

/-- A call that does not panic, unless there is no address left. -/
def accepted (rx : Bool) : ProvisionerCall → Bool
  | .scanResult rssi data => rx || (Provisioner.scanResult rssi data).isNone
  | .requestProvData unicastCount => unicastCount = 1
  | .addNodeComplete uuid unicastAddr _ => rx || (Provisioner.addNodeComplete uuid unicastAddr).isNone
  | .addNodeFailed uuid reason => rx || (Provisioner.addNodeFailed uuid reason).isNone

end ProvisionerCall

namespace Provisioner

variable {self : Provisioner} {rx : Bool}

/-- How many addresses are asked for before a call panics for another reason than that there is none left. -/
def requested (calls : List (Bool × ProvisionerCall)) : ℕ :=
  (calls.takeWhile fun call => call.2.accepted call.1).countP fun call => call.2.requests

theorem blockingSend_of_accepted (self : Provisioner) {event : Option Event} (h : (rx || event.isNone) = true) :
    ∃ self', self.blockingSend rx event = .ok self' ∧ self'.addrCnt = self.addrCnt := by
  unfold blockingSend
  cases event with
  | none => exact ⟨self, rfl, rfl⟩
  | some event =>
      have hrx : rx = true := by simpa using h
      exact ⟨_, if_pos hrx, rfl⟩

theorem blockingSend_of_refused {event : Option Event} (h : (rx || event.isNone) = false) :
    self.blockingSend rx event = .error .closedTx := by
  unfold blockingSend
  cases event with
  | none => simp at h
  | some event =>
      have hrx : rx = false := by simpa using h
      simp [hrx]

/-- A call that is not accepted panics. -/
theorem handle_of_refused (self : Provisioner) {call : ProvisionerCall} (h : call.accepted rx = false) :
    ∃ e, self.handle rx call = .error e := by
  cases call with
  | scanResult rssi data =>
      refine ⟨.closedTx, ?_⟩
      rw [handle, blockingSend_of_refused h]
      rfl
  | requestProvData unicastCount =>
      refine ⟨.unicastCount, ?_⟩
      rw [handle, requestProvData, if_neg (of_decide_eq_false h)]
      rfl
  | addNodeComplete uuid unicastAddr =>
      refine ⟨.closedTx, ?_⟩
      rw [handle, blockingSend_of_refused h]
      rfl
  | addNodeFailed uuid reason =>
      refine ⟨.closedTx, ?_⟩
      rw [handle, blockingSend_of_refused h]
      rfl

/-- The other calls leave the address alone. -/
theorem handle_of_not_requests (self : Provisioner) {call : ProvisionerCall} (h : call.accepted rx = true)
    (hother : call.requests = false) :
    ∃ self', self.handle rx call = .ok (none, self') ∧ self'.addrCnt = self.addrCnt := by
  have hsend : ∀ event : Option Event, (rx || event.isNone) = true →
      ∃ self', (do let self ← self.blockingSend rx event; .ok (none, self)) =
          (.ok (none, self') : Except ProvisionerPanic (Option (NetIndex × MeshAddr) × Provisioner)) ∧
        self'.addrCnt = self.addrCnt := by
    intro event hevent
    obtain ⟨self', hself, haddr⟩ := blockingSend_of_accepted self hevent
    exact ⟨self', by rw [hself]; rfl, haddr⟩
  cases call with
  | scanResult rssi data => exact hsend _ h
  | requestProvData => cases hother
  | addNodeComplete uuid unicastAddr => exact hsend _ h
  | addNodeFailed uuid reason => exact hsend _ h

/-- A request is answered with the next address, and that is counted up. -/
theorem handle_request (h : self.addrCnt.toNat < 0xffff) :
    self.handle rx (.requestProvData 1) =
      .ok (some (mainNetIndex, self.addrCnt), { self with addrCnt := self.addrCnt + 1 }) := by
  have hsum : self.addrCnt.toNat + (1 : UInt16).toNat < 2 ^ 16 := by
    rw [UInt16.toNat_one]
    omega
  rw [handle, requestProvData, if_pos rfl, checkedAdd, if_pos hsum]
  rfl

/-- The last address of the `u16` is never given out. -/
theorem handle_request_overflow (h : self.addrCnt.toNat = 0xffff) :
    self.handle rx (.requestProvData 1) = .error .addrOverflow := by
  have hsum : ¬ self.addrCnt.toNat + (1 : UInt16).toNat < 2 ^ 16 := by
    rw [h, UInt16.toNat_one]
    omega
  rw [handle, requestProvData, if_pos rfl, checkedAdd, if_neg hsum]
  rfl

/-- The addresses are counted up from the first one, until the `u16` is used up. -/
theorem provData_eq (self : Provisioner) (calls : List (Bool × ProvisionerCall)) :
    self.provData calls =
      (List.range (min (requested calls) (0xffff - self.addrCnt.toNat))).map fun i =>
        (mainNetIndex, self.addrCnt + UInt16.ofNat i) := by
  induction calls generalizing self with
  | nil => simp [provData, requested]
  | cons call calls ih =>
      obtain ⟨rx, call⟩ := call
      cases haccepted : call.accepted rx with
      | false =>
          obtain ⟨e, he⟩ := handle_of_refused self haccepted
          have hnone : requested ((rx, call) :: calls) = 0 := by
            rw [requested, List.takeWhile_cons_of_neg (by simp [haccepted]), List.countP_nil]
          rw [provData, he, hnone, Nat.zero_min]
          rfl
      | true =>
          have hcount : requested ((rx, call) :: calls) =
              requested calls + if call.requests then 1 else 0 := by
            rw [requested, List.takeWhile_cons_of_pos (by simp [haccepted]), List.countP_cons]
            rfl
          cases hrequests : call.requests with
          | false =>
              obtain ⟨self', hself, haddr⟩ :=
                handle_of_not_requests self haccepted hrequests
              rw [provData, hself, hcount, hrequests, ← haddr]
              exact ih self'
          | true =>
              obtain rfl : call = .requestProvData 1 := by
                cases call with
                | requestProvData unicastCount => rw [of_decide_eq_true haccepted]
                | scanResult => cases hrequests
                | addNodeComplete => cases hrequests
                | addNodeFailed => cases hrequests
              have hlt := self.addrCnt.toNat_lt
              by_cases hleft : self.addrCnt.toNat < 0xffff
              · have hnext : (self.addrCnt + 1).toNat = self.addrCnt.toNat + 1 := by
                  rw [UInt16.toNat_add, UInt16.toNat_one]
                  omega
                have hmin : min (requested ((rx, .requestProvData 1) :: calls)) (0xffff - self.addrCnt.toNat) =
                    min (requested calls) (0xffff - (self.addrCnt.toNat + 1)) + 1 := by
                  rw [hcount]
                  simp only [ProvisionerCall.requests, if_true]
                  omega
                rw [provData, handle_request hleft, hmin, List.range_succ_eq_map, List.map_cons,
                  List.map_map]
                simp only [ih, hnext, Option.toList_some, List.singleton_append]
                refine congr_arg₂ _ (by simp) (List.map_congr_left fun i _ => ?_)
                simp only [Function.comp_apply, Nat.succ_eq_add_one, UInt16.ofNat_add]
                rw [add_assoc, add_comm (1 : UInt16)]
                rfl
              · have hlast : self.addrCnt.toNat = 0xffff := by omega
                rw [provData, handle_request_overflow hlast, hlast]
                simp

/-- The addresses of new nodes. -/
def addrs (calls : List (Bool × ProvisionerCall)) : List MeshAddr := (new.provData calls).map Prod.snd

/-- Distinct addresses of nodes, none of them one of the first four. -/
structure UnicastAddrs (addrs : List MeshAddr) : Prop where
  distinct : addrs.Nodup
  free : ∀ addr ∈ addrs, 0x0005 ≤ addr
  unicast : ∀ addr ∈ addrs, 0x0001 ≤ addr ∧ addr ≤ 0x7fff

/-- They are the numbers from 5 on. -/
theorem addrs_eq (calls : List (Bool × ProvisionerCall)) :
    addrs calls = (List.range (min (requested calls) 65530)).map fun i => 5 + UInt16.ofNat i := by
  rw [addrs, provData_eq, List.map_map]
  rfl

theorem toNat_addr {i : ℕ} (h : i < 65530) : (5 + UInt16.ofNat i).toNat = 5 + i := by
  rw [UInt16.toNat_add, UInt16.toNat_ofNat']
  change (5 + i % 2 ^ 16) % 2 ^ 16 = 5 + i
  omega

/-- **Addresses.** Whatever calls of the provisioner come in, the addresses it returns are distinct, and none of
them is below 5. They are unicast addresses if and only if at most `0x7ffb` are asked for: then the last one
is `0x7fff`. -/
theorem provisioned_iff (calls : List (Bool × ProvisionerCall)) :
    ((addrs calls).Nodup ∧ ∀ addr ∈ addrs calls, 0x0005 ≤ addr) ∧
      (UnicastAddrs (addrs calls) ↔ requested calls ≤ 0x7ffb) := by
  have hmem : ∀ addr, addr ∈ addrs calls ↔
      ∃ i, i < min (requested calls) 65530 ∧ 5 + UInt16.ofNat i = addr := by
    intro addr
    rw [addrs_eq]
    simp only [List.mem_map, List.mem_range]
  have hdistinct : (addrs calls).Nodup := by
    rw [addrs_eq]
    apply List.Nodup.map_on _ List.nodup_range
    intro i hi j hj heq
    have hi := List.mem_range.mp hi
    have hj := List.mem_range.mp hj
    have hnat := congrArg UInt16.toNat heq
    rw [toNat_addr (by omega), toNat_addr (by omega)] at hnat
    omega
  have hfree : ∀ addr ∈ addrs calls, 0x0005 ≤ addr := by
    intro addr haddr
    obtain ⟨i, hi, rfl⟩ := (hmem addr).mp haddr
    rw [UInt16.le_iff_toNat_le, toNat_addr (by omega)]
    exact Nat.le_add_right 5 i
  refine ⟨⟨hdistinct, hfree⟩, fun h => ?_, fun hle => ⟨hdistinct, hfree, fun addr haddr => ?_⟩⟩
  · by_contra hmany
    have hlast : 5 + UInt16.ofNat 0x7ffb ∈ addrs calls := (hmem _).mpr ⟨0x7ffb, by omega, rfl⟩
    exact absurd (h.unicast _ hlast).2 (by decide)
  · obtain ⟨i, hi, rfl⟩ := (hmem addr).mp haddr
    rw [UInt16.le_iff_toNat_le, UInt16.le_iff_toNat_le, toNat_addr (by omega)]
    change 1 ≤ 5 + i ∧ 5 + i ≤ 0x7fff
    omega

/-- The last one of `0x7ffc` addresses is `0x8000`, which is not that of a node. -/
theorem provisioned_virtual :
    (0x8000 : MeshAddr) ∈ addrs (List.replicate 0x7ffc (true, .requestProvData 1)) ∧
      ¬ UnicastAddrs (addrs (List.replicate 0x7ffc (true, .requestProvData 1))) := by
  have hrequested : requested (List.replicate 0x7ffc (true, .requestProvData 1)) = 0x7ffc := by
    have hall : ∀ call ∈ List.replicate 0x7ffc (true, ProvisionerCall.requestProvData 1),
        call.2.accepted call.1 = true ∧ call.2.requests = true := by
      intro call hcall
      rw [List.eq_of_mem_replicate hcall]
      exact ⟨rfl, rfl⟩
    rw [requested, List.takeWhile_eq_self_iff.mpr fun call hcall => (hall call hcall).1,
      List.countP_eq_length.mpr fun call hcall => (hall call hcall).2, List.length_replicate]
  have hmem : (0x8000 : MeshAddr) ∈ addrs (List.replicate 0x7ffc (true, .requestProvData 1)) := by
    rw [addrs_eq, hrequested]
    exact List.mem_map.mpr ⟨0x7ffb, List.mem_range.mpr (by norm_num), rfl⟩
  exact ⟨hmem, fun h => absurd (h.unicast _ hmem).2 (by decide)⟩

end Provisioner

end BleWsCentral.Mesh
