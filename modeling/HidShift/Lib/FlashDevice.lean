import HidShift.Lib.Flash
import HidShift.Lib.Triple

/-! A flash device that may stop in the middle of an operation.  An erase that
stops leaves anything in its range, a write that stops has programmed a prefix
of its bytes, a read that stops has read nothing. -/

namespace HidShift.Lib

open InPlace

/-- The operation that stops, counted from zero, and what it leaves. -/
structure FlashFault (ε : Type) where
  operation : Nat
  garbage : Flash
  programmed : Nat
  error : ε

/-- `operations` counts the operations that finished, `programs` lists what was
programmed where. -/
structure FlashDevice (ε : Type) where
  flash : Flash
  fault : Option (FlashFault ε)
  operations : Nat
  programs : List (Nat × List UInt8)

namespace FlashDevice

variable {ε ε' α : Type}

def start (flash : Flash) (fault : Option (FlashFault ε)) : FlashDevice ε :=
  ⟨flash, fault, 0, []⟩

def filled (device : FlashDevice ε) (offset size : Nat) (content : Flash) :
    FlashDevice ε :=
  { device with flash := device.flash.fill offset size content }

def programmed (device : FlashDevice ε) (offset : Nat) (bytes : List UInt8) :
    FlashDevice ε :=
  { device with
    flash := device.flash.program offset bytes
    programs := device.programs ++ [(offset, bytes)] }

/-- The device some finished operations later. -/
def skip (device : FlashDevice ε) (finished : Nat) : FlashDevice ε :=
  { device with operations := device.operations + finished }

def next (device : FlashDevice ε) : FlashDevice ε := device.skip 1

@[simp] theorem skip_skip (device : FlashDevice ε) (first second : Nat) :
    (device.skip first).skip second = device.skip (first + second) := by
  rw [skip, skip, skip, Nat.add_assoc]

/-- The fault of the operation that comes next. -/
def stops (device : FlashDevice ε) : Option (FlashFault ε) :=
  device.fault.filter fun fault => fault.operation = device.operations

/-- An operation on a device, complete or only partly done. -/
def finish (convert : ε → ε') (complete : FlashDevice ε → FlashDevice ε)
    (partly : FlashFault ε → FlashDevice ε → FlashDevice ε)
    (device : FlashDevice ε) :
    Option (FlashFault ε) → InPlace ε' (FlashDevice ε) Unit
  | some fault => do
      set (partly fault device)
      throw (convert fault.error)
  | none => set (complete device).next

def operate (convert : ε → ε') (complete : FlashDevice ε → FlashDevice ε)
    (partly : FlashFault ε → FlashDevice ε → FlashDevice ε) :
    InPlace ε' (FlashDevice ε) Unit := do
  let device ← get
  finish convert complete partly device device.stops

def read (convert : ε → ε') (offset size : Nat) :
    InPlace ε' (FlashDevice ε) (List UInt8) := do
  operate convert id fun _ device => device
  let device ← get
  return device.flash.read offset size

def erase (convert : ε → ε') (offset size : Nat) :
    InPlace ε' (FlashDevice ε) Unit :=
  operate convert (·.filled offset size Flash.erased) fun fault device =>
    device.filled offset size fault.garbage

def write (convert : ε → ε') (offset : Nat) (bytes : List UInt8) :
    InPlace ε' (FlashDevice ε) Unit :=
  operate convert (·.programmed offset bytes) fun fault device =>
    device.programmed offset (bytes.take fault.programmed)

/-- The fault, if any, is of this operation. -/
def StopsHere (device : FlashDevice ε) (fault : FlashFault ε) : Prop :=
  device.fault = some fault ∧ fault.operation = device.operations

variable {convert : ε → ε'} {device : FlashDevice ε}
  {failed : FlashDevice ε → Prop}

theorem stops_eq_some {fault : FlashFault ε} :
    device.stops = some fault ↔ device.StopsHere fault := by
  rw [stops, Option.filter_eq_some_iff, decide_eq_true_eq]
  rfl

variable {partly : FlashFault ε → FlashDevice ε → FlashDevice ε}
  {post : α → FlashDevice ε → Prop}
  {second : Unit → InPlace ε' (FlashDevice ε) α}
  {complete : FlashDevice ε → FlashDevice ε}

theorem run_operate_none (due : device.stops = none) :
    (operate convert complete partly :
      InPlace ε' (FlashDevice ε) Unit).run device =
        .ok () (complete device).next := by
  show (finish convert complete partly device device.stops).run device = _
  rw [due]
  rfl

theorem run_operate_some {fault : FlashFault ε}
    (due : device.stops = some fault) :
    (operate convert complete partly :
      InPlace ε' (FlashDevice ε) Unit).run device =
        .error (convert fault.error) (partly fault device) := by
  show (finish convert complete partly device device.stops).run device = _
  rw [due]
  rfl

theorem triple_operate {complete : FlashDevice ε → FlashDevice ε}
    {partly : FlashFault ε → FlashDevice ε → FlashDevice ε}
    {post : Unit → FlashDevice ε → Prop}
    (stopped : ∀ fault, device.StopsHere fault → failed (partly fault device))
    (finished : post () (complete device).next) :
    Triple (· = device)
      (operate convert complete partly : InPlace ε' (FlashDevice ε) Unit)
      post failed := by
  intro before same
  subst same
  cases due : before.stops with
  | none => exact stops_of_ok (run_operate_none due) finished
  | some fault =>
      exact stops_of_error (run_operate_some due)
        (stopped fault (stops_eq_some.mp due))

theorem triple_read_bind {offset size : Nat}
    {second : List UInt8 → InPlace ε' (FlashDevice ε) α}
    (stopped : ∀ fault, device.StopsHere fault → failed device)
    (rest : Triple (· = device.next) (second (device.flash.read offset size))
      post failed) :
    Triple (· = device) (read convert offset size >>= second) post
      failed := by
  have reads : Triple (· = device)
      (read convert offset size : InPlace ε' (FlashDevice ε) _)
      (fun bytes after => bytes = device.flash.read offset size ∧
        after = device.next) failed := by
    have operated : Triple (· = device)
        (operate convert id fun _ device => device :
          InPlace ε' (FlashDevice ε) Unit)
        (fun _ after => after = device.next) failed :=
      triple_operate stopped rfl
    apply triple_bind operated
    intro _
    apply triple_get_bind
    rintro state rfl
    apply triple_pure
    rintro after rfl
    exact ⟨rfl, rfl⟩
  exact triple_bind_exact reads rest

theorem triple_operate_bind
    (stopped : ∀ fault, device.StopsHere fault → failed (partly fault device))
    (rest : Triple (· = (complete device).next) (second ()) post failed) :
    Triple (· = device) (operate convert complete partly >>= second) post
      failed := by
  have operated : Triple (· = device)
      (operate convert complete partly : InPlace ε' (FlashDevice ε) Unit)
      (fun _ after => after = (complete device).next) failed :=
    triple_operate stopped rfl
  exact triple_bind operated fun _ => rest

theorem triple_erase_bind
    (stopped : ∀ fault, device.StopsHere fault → failed (device.filled offset
      size fault.garbage))
    (rest : Triple (· = (device.filled offset size Flash.erased).next) (second
      ()) post failed) :
    Triple (· = device) (erase convert offset size >>= second) post failed :=
  triple_operate_bind stopped rest

theorem triple_write_bind
    (stopped : ∀ fault, device.StopsHere fault → failed (device.programmed
      offset (bytes.take fault.programmed)))
    (rest : Triple (· = (device.programmed offset bytes).next) (second ()) post
      failed) :
    Triple (· = device) (write convert offset bytes >>= second) post failed :=
  triple_operate_bind stopped rest

def Ahead (device : FlashDevice ε) : Prop :=
  ∀ fault, device.fault = some fault → device.operations ≤ fault.operation

theorem triple_operate_ahead
    (fault : ∀ device, (complete device).fault = device.fault)
    (operations : ∀ device, (complete device).operations = device.operations) :
    Triple Ahead
      (operate convert complete partly : InPlace ε' (FlashDevice ε) Unit)
      (fun _ => Ahead) fun _ => True := by
  intro before ahead
  cases due : before.stops with
  | none =>
      apply stops_of_ok (run_operate_none due)
      intro cause same
      have known : before.fault = some cause := (fault before).symm.trans same
      have differs : cause.operation ≠ before.operations := by
        intro here
        rw [stops_eq_some.mpr ⟨known, here⟩] at due
        cases due
      have bound := ahead cause known
      have counted : ((complete before).next).operations =
          before.operations + 1 :=
        congrArg (· + 1) (operations before)
      omega
  | some fault => exact stops_of_error (run_operate_some due) trivial

theorem triple_read_ahead (offset size : Nat) :
    Triple Ahead (read convert offset size : InPlace ε' (FlashDevice ε) _)
      (fun _ => Ahead) fun _ => True := by
  apply triple_bind (triple_operate_ahead (fun _ => rfl) fun _ => rfl)
  intro _
  exact triple_get_bind fun _ ahead => triple_pure fun _ same => same ▸ ahead

theorem triple_erase_ahead (offset size : Nat) :
    Triple Ahead (erase convert offset size : InPlace ε' (FlashDevice ε) _)
      (fun _ => Ahead) fun _ => True :=
  triple_operate_ahead (fun _ => rfl) fun _ => rfl

theorem triple_write_ahead (offset : Nat) (bytes : List UInt8) :
    Triple Ahead (write convert offset bytes : InPlace ε' (FlashDevice ε) _)
      (fun _ => Ahead) fun _ => True :=
  triple_operate_ahead (fun _ => rfl) fun _ => rfl

end FlashDevice

end HidShift.Lib
