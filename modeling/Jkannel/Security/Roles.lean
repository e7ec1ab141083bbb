import Jkannel.Lib.Transaction
import Jkannel.Lib.Transition
import Jkannel.Lib.Updates
import Mathlib.Data.List.Dedup

/-!
# Role administration

A tenant is administered by the users who hold `users.manage` through a role.  Changing a role is
refused when nobody would hold it any more; changing a user is not looked at.

* `script` is an operation as the statements it sends, in a transaction: each sees what is committed
  and what the transaction itself has written.
* `step` is any number of such transactions, interleaved statement by statement.
* `administration_survives` is the promise, for runs in which each operation that commits `Spares`
  some active user who holds `users.manage`.  The guard does not see to that: it counts users who
  are not active, it is asked before the commit, and an operation on a user does not ask it
  (`administration_is_lost`).
-/

namespace Jkannel.Security.Roles

open List
open Transaction (bind_eq_ok)

/-! ## Tables -/

inductive UserStatus where
  | pending | active | disabled | locked | expired | archived | deleted
  deriving DecidableEq

/-- A row of `users`. -/
structure UserRow where
  id : Nat
  username : String
  status : UserStatus
  passwordHash : String

/-- A row of `roles`. -/
structure RoleRow where
  id : Nat
  name : String
  description : Option String
  isSystem : Bool

/-- The tables of one tenant. -/
structure Tables where
  users : List UserRow
  roles : List RoleRow
  /-- `user_roles`: a user's and a role's id. -/
  userRoles : List (Nat × Nat)
  /-- `role_permissions`: a role's id and a permission's code. -/
  rolePermissions : List (Nat × String)

/-- What a statement writes. -/
inductive Write where
  | updateUser (id : Nat) (status : Option UserStatus) (passwordHash : Option String)
  /-- `DELETE FROM user_roles` of the rows that were seen, and the INSERTs after it. -/
  | replaceUserRoles (id : Nat) (dropped : List (Nat × Nat)) (roleIds : List Nat)
  | insertRole (row : RoleRow)
  | updateRole (id : Nat) (name description : Option String)
  /-- `DELETE FROM role_permissions` of the rows that were seen, and the INSERTs after it. -/
  | replaceRolePermissions (id : Nat) (dropped : List (Nat × String)) (codes : List String)
  /-- `DELETE FROM roles`, which takes what refers to the role with it. -/
  | deleteRole (id : Nat)

/-- `ON CONFLICT DO NOTHING`. -/
def insertMissing {α : Type} [DecidableEq α] (rows new : List α) : List α :=
  rows ++ new.filter (· ∉ rows)

def Write.apply (T : Tables) : Write → Tables
  | .updateUser id status passwordHash =>
    { T with users := T.users.map fun u => if u.id = id then
        { u with
          status := status.getD u.status
          passwordHash := passwordHash.getD u.passwordHash }
        else u }
  | .replaceUserRoles id dropped roleIds =>
    { T with userRoles := insertMissing (T.userRoles.filter (· ∉ dropped)) (roleIds.map (id, ·)) }
  | .insertRole row => { T with roles := T.roles ++ [row] }
  | .updateRole id name description =>
    { T with roles := T.roles.map fun r => if r.id = id then
        { r with
          name := name.getD r.name
          description := description.orElse fun _ => r.description }
        else r }
  | .replaceRolePermissions id dropped codes =>
    { T with rolePermissions :=
        insertMissing (T.rolePermissions.filter (· ∉ dropped)) (codes.map (id, ·)) }
  | .deleteRole id =>
    { T with
      roles := T.roles.filter (·.id ≠ id)
      userRoles := T.userRoles.filter (·.2 ≠ id)
      rolePermissions := T.rolePermissions.filter (·.1 ≠ id) }

def applyAll (T : Tables) (writes : List Write) : Tables := writes.foldl Write.apply T

/-- The constraints of the tables: keys are unique, and what is referred to is there. -/
def Consistent (T : Tables) : Prop :=
  (T.roles.map RoleRow.name).Nodup ∧ (T.roles.map RoleRow.id).Nodup ∧
    (∀ p ∈ T.userRoles, p.1 ∈ T.users.map UserRow.id ∧ p.2 ∈ T.roles.map RoleRow.id) ∧
      ∀ p ∈ T.rolePermissions, p.1 ∈ T.roles.map RoleRow.id

instance (T : Tables) : Decidable (Consistent T) := by
  unfold Consistent
  infer_instance

/-! ## Statements -/

inductive HttpError where
  | badRequest (message : String)
  | notFound (message : String)
  | conflict (message : String)
  /-- An error of the database that nobody caught. -/
  | database (message : String)

/-- What an operation keeps from statement to statement. -/
structure Locals where
  /-- How many held `users.manage` before. -/
  administrators : Nat
  permissionIds : List String

/-- A statement, given what its transaction sees. -/
abbrev Statement := Tables → Locals → Except HttpError (List Write × Locals)

/-- The permission catalogue, which is global. -/
structure Setting where
  permissions : List String

def MANAGE : String := "users.manage"

/-- How many users currently hold a permission through any role. -/
def holdersOf (T : Tables) (code : String) : Nat :=
  ((T.userRoles.filter fun p => (p.2, code) ∈ T.rolePermissions).map Prod.fst).dedup.length

/-- The role, with the number of its users. -/
def roleById (T : Tables) (id : Nat) : Except HttpError (RoleRow × Nat) :=
  match T.roles.find? (·.id = id) with
  | none => throw (.notFound "Role not found")
  | some role => return (role, (T.userRoles.filter (·.2 = id)).length)

/-- Permission codes, without duplicates, if all of them are in the catalogue. -/
def resolvePermissionIds (env : Setting) (codes : List String) : Except HttpError (List String) :=
  let wanted := codes.dedup
  let unknown := wanted.filter (· ∉ env.permissions)
  if unknown ≠ [] then throw (.badRequest ("Unknown permission code(s): " ++
    ", ".intercalate (unknown.mergeSort (· ≤ ·))))
  else return wanted

def replaceRolePermissions (T : Tables) (roleId : Nat) (permissionIds : List String) : Write :=
  .replaceRolePermissions roleId (T.rolePermissions.filter (·.1 = roleId)) permissionIds

/-- Refuse a change that would leave nobody able to administer roles again. -/
def assertRoleAdministrationSurvives (T : Tables) (before : Nat) : Except HttpError Unit :=
  if before = 0 then return ()
  else if holdersOf T MANAGE = 0 then throw (.conflict ("That change would leave no user holding " ++
    "users.manage; role administration would become impossible"))
  else return ()

/-! ## Operations -/

/-- What a role's edit changes. -/
structure RoleChange where
  name : Option String
  description : Option String
  permissions : Option (List String)

/-- What a user's edit changes. -/
structure UserChange where
  status : Option UserStatus
  roleIds : Option (List Nat)
  passwordHash : Option String

/-- The requests there are. -/
inductive Operation where
  /-- The id is the one the database will give it. -/
  | createRole (id : Nat) (name : String) (description : Option String) (permissions : List String)
  | updateRole (id : Nat) (value : RoleChange)
  | deleteRole (id : Nat)
  | updateUser (id : Nat) (value : UserChange)
  | archiveUser (id : Nat)

/-- An INSERT or UPDATE of a role's name. -/
def uniqueName (T : Tables) (id : Nat) (name : String) : Except HttpError Unit :=
  if T.roles.any fun r => r.name = name && r.id ≠ id then
    throw (.conflict "A role with that name already exists")
  else return ()

def createRole (env : Setting) (id : Nat) (name : String) (description : Option String)
    (permissions : List String) : List Statement :=
  [fun _ l => do
      let permissionIds ← resolvePermissionIds env permissions
      return ([], { l with permissionIds }),
    fun T l => do
      uniqueName T id name
      if id ∈ T.roles.map RoleRow.id ∨ id ∈ T.rolePermissions.map Prod.fst then
        throw (.database "duplicate key value violates unique constraint \"roles_pkey\"")
      -- nobody sees the role before it has its permissions
      return ([.insertRole ⟨id, name, description, false⟩,
        replaceRolePermissions T id l.permissionIds], l)]

def updateRole (env : Setting) (id : Nat) (value : RoleChange) : List Statement :=
  [fun T l => do
      let (before, _) ← roleById T id
      -- the name is looked at after the next statement, which cannot fail
      if before.isSystem ∧ value.name.any (· ≠ before.name) then
        throw (.conflict "A system role cannot be renamed")
      return ([], l),
    fun T l => return ([], { l with administrators := holdersOf T MANAGE }),
    fun _ l => do
      match value.permissions with
      | none => return ([], l)
      | some codes =>
        let permissionIds ← resolvePermissionIds env codes
        return ([], { l with permissionIds }),
    fun T l => do
      if value.name.isSome ∨ value.description.isSome then
        match value.name with
        | some name => uniqueName T id name
        | none => pure ()
        return ([.updateRole id value.name value.description], l)
      else return ([], l),
    fun T l => do
      match value.permissions with
      | none => return ([], l)
      | some _ => return ([replaceRolePermissions T id l.permissionIds], l),
    fun T l => do
      match value.permissions with
      | none => return ([], l)
      | some _ =>
        assertRoleAdministrationSurvives T l.administrators
        return ([], l)]

def deleteRole (id : Nat) : List Statement :=
  [fun T l => do
      let (role, userCount) ← roleById T id
      if role.isSystem then
        throw (.conflict "A system role cannot be deleted; edit its permissions instead")
      if 0 < userCount then throw (.conflict ("Role is assigned to " ++ toString userCount ++
        " user(s); reassign them before deleting it"))
      return ([], l),
    fun T l => return ([], { l with administrators := holdersOf T MANAGE }),
    fun T l => return ([replaceRolePermissions T id []], l),
    fun _ l => return ([.deleteRole id], l),
    fun T l => do
      assertRoleAdministrationSurvives T l.administrators
      return ([], l)]

/-- `SELECT … FROM users WHERE id=$1`. -/
def userById (T : Tables) (id : Nat) : Except HttpError UserRow :=
  match T.users.find? (·.id = id) with
  | none => throw (.notFound "User not found")
  | some old => return old

def updateUser (id : Nat) (value : UserChange) : List Statement :=
  [fun T l => do
      let _ ← userById T id
      return ([], l),
    fun _ l =>
      if value.status.isSome ∨ value.passwordHash.isSome then
        return ([.updateUser id value.status value.passwordHash], l)
      else return ([], l),
    fun T l => do
      match value.roleIds with
      | none => return ([], l)
      | some roleIds =>
        if ∃ r ∈ roleIds, r ∉ T.roles.map RoleRow.id then throw (.database
          "insert or update on table \"user_roles\" violates foreign key constraint")
        return ([.replaceUserRoles id (T.userRoles.filter (·.1 = id)) roleIds], l)]

def archiveUser (userId id : Nat) : List Statement :=
  [fun T l => do
      let old ← userById T id
      if old.id = userId then throw (.conflict "You cannot archive your own account")
      return ([], l),
    fun _ l => return ([.updateUser id (some .archived) none], l)]

/-- The statements of an operation of the user `userId`. -/
def script (env : Setting) (userId : Nat) : Operation → List Statement
  | .createRole id name description permissions => createRole env id name description permissions
  | .updateRole id value => updateRole env id value
  | .deleteRole id => deleteRole id
  | .updateUser id value => updateUser id value
  | .archiveUser id => archiveUser userId id

/-! ## Transactions -/

/-- A transaction: an operation, and how many of its statements are done. -/
structure Tx where
  userId : Nat
  op : Operation
  done : Nat
  locals : Locals
  writes : List Write

/-- The tables and the transactions. -/
structure State where
  /-- What is committed. -/
  tables : Tables
  tx : Nat → Option Tx

/-- One statement of one transaction. -/
inductive Action where
  | begin (t userId : Nat) (op : Operation)
  /-- The next statement; one that throws rolls the transaction back. -/
  | exec (t : Nat)
  | commit (t : Nat)
  /-- The connection is lost, or the database gives the transaction up. -/
  | abort (t : Nat)

def init (tables : Tables) : State := ⟨tables, fun _ => none⟩

def State.setTx (s : State) (t : Nat) (x : Option Tx) : State :=
  { s with tx := Function.update s.tx t x }

/-- What one action does. -/
@[grind =] def step (env : Setting) (s : State) : Action → Option State
  | .begin t userId op =>
    match s.tx t with
    | none => some (s.setTx t (some ⟨userId, op, 0, ⟨0, []⟩, []⟩))
    | some _ => none
  | .exec t =>
    match s.tx t with
    | none => none
    | some x =>
      match (script env x.userId x.op)[x.done]? with
      | none => none
      | some statement =>
        match statement (applyAll s.tables x.writes) x.locals with
        | .ok (writes, l) => some (s.setTx t
            (some { x with done := x.done + 1, locals := l, writes := x.writes ++ writes }))
        | .error _ => some (s.setTx t none)
  | .commit t =>
    match s.tx t with
    | none => none
    | some x =>
      if x.done = (script env x.userId x.op).length ∧ Consistent (applyAll s.tables x.writes) then
        some ⟨applyAll s.tables x.writes, Function.update s.tx t none⟩
      else none
  | .abort t => (s.tx t).map fun _ => s.setTx t none

/-- Administration as a transition system. -/
def administering (env : Setting) : Transition.System State Action := ⟨step env⟩

/-! ## What is promised -/

/-- An active user holds `users.manage` through a role. -/
def Hold (T : Tables) (user role : Nat) : Prop :=
  (∃ u ∈ T.users, u.id = user ∧ u.status = .active) ∧ (user, role) ∈ T.userRoles ∧
    (role, MANAGE) ∈ T.rolePermissions

/-- Some active user holds `users.manage`. -/
def Administered (T : Tables) : Prop := ∃ p ∈ T.userRoles, Hold T p.1 p.2

instance (T : Tables) (user role : Nat) : Decidable (Hold T user role) := by
  unfold Hold
  infer_instance

instance (T : Tables) : Decidable (Administered T) := by
  unfold Administered
  infer_instance

/-- Some active user other than one holds it. -/
def OtherUser (T : Tables) (id : Nat) : Prop := ∃ p ∈ T.userRoles, p.1 ≠ id ∧ Hold T p.1 p.2

/-- Some active user holds it through another role. -/
def OtherRole (T : Tables) (id : Nat) : Prop := ∃ p ∈ T.userRoles, p.2 ≠ id ∧ Hold T p.1 p.2

/-- A change leaves a user active, and with a role that grants `users.manage` if it names any. -/
def Keeps (T : Tables) (value : UserChange) : Prop :=
  (∀ status ∈ value.status, status = .active) ∧
    ∀ roleIds ∈ value.roleIds, ∃ r ∈ roleIds, (r, MANAGE) ∈ T.rolePermissions

/-- What an operation takes leaves an active user who holds `users.manage`. -/
def Spares (T : Tables) : Operation → Prop
  | .createRole _ _ _ _ => True
  | .updateRole id value => ∀ codes ∈ value.permissions, MANAGE ∈ codes ∨ OtherRole T id
  | .deleteRole id => OtherRole T id
  | .updateUser id value => Keeps T value ∨ OtherUser T id
  | .archiveUser id => OtherUser T id

instance (T : Tables) (op : Operation) : Decidable (Spares T op) := by
  cases op <;> unfold Spares <;> (try unfold Keeps) <;> (try unfold OtherRole) <;>
    (try unfold OtherUser) <;> infer_instance

/-- **The condition.**  An operation that commits does so while an active user whom it does not touch
holds `users.manage`, through a role that it does not touch, or leaves the ones it touches their
hold. -/
def Sparing (s : State) : Action → Prop
  | .commit t => ∀ x ∈ s.tx t, Spares s.tables x.op
  | _ => True

instance (s : State) (a : Action) : Decidable (Sparing s a) := by
  cases a <;> unfold Sparing <;> infer_instance

/-! ## What a write leaves of a hold -/

section Writes

variable {T : Tables} {user role : Nat} {writes : List Write}

theorem mem_insertMissing {α : Type} [DecidableEq α] {rows new : List α} {a : α} :
    a ∈ insertMissing rows new ↔ a ∈ rows ∨ a ∈ new := by
  by_cases h : a ∈ rows <;> simp [insertMissing, h]

section

variable (h : Hold T user role) {id : Nat}
include h

/-- The user stays active. -/
theorem Hold.updateUser {status : Option UserStatus}
    (passwordHash : Option String) (hok : user ≠ id ∨ ∀ st ∈ status, st = .active) :
    Hold ((Write.updateUser id status passwordHash).apply T) user role := by
  obtain ⟨⟨u, hu, hid, hactive⟩, hrest⟩ := h
  refine ⟨⟨_, mem_map_of_mem hu, ?_, ?_⟩, hrest⟩
  · split
    · exact hid
    · exact hid
  · split
    · rename_i heq
      rcases hok with hne | hstatus
      · exact absurd (hid.symm.trans heq) hne
      · cases status with
        | none => exact hactive
        | some st => exact hstatus st rfl
    · exact hactive

theorem Hold.replaceUserRoles {dropped : List (Nat × Nat)}
    (roleIds : List Nat) (hok : (user, role) ∉ dropped) :
    Hold ((Write.replaceUserRoles id dropped roleIds).apply T) user role :=
  ⟨h.1, mem_insertMissing.mpr (.inl (mem_filter.mpr ⟨h.2.1, decide_eq_true hok⟩)), h.2.2⟩

/-- A user who is given a role that grants `users.manage` holds it. -/
theorem Hold.given {role' : Nat} (dropped : List (Nat × Nat))
    {roleIds : List Nat} (hrole : role' ∈ roleIds) (hgrants : (role', MANAGE) ∈ T.rolePermissions) :
    Hold ((Write.replaceUserRoles user dropped roleIds).apply T) user role' :=
  ⟨h.1, mem_insertMissing.mpr (.inr (mem_map_of_mem hrole)), hgrants⟩

theorem Hold.replaceRolePermissions {dropped : List (Nat × String)} {codes : List String}
    (hok : (role, MANAGE) ∉ dropped ∨ (role = id ∧ MANAGE ∈ codes)) :
    Hold ((Write.replaceRolePermissions id dropped codes).apply T) user role := by
  refine ⟨h.1, h.2.1, mem_insertMissing.mpr ?_⟩
  rcases hok with hok | ⟨rfl, hcode⟩
  · exact .inl (mem_filter.mpr ⟨h.2.2, decide_eq_true hok⟩)
  · exact .inr (mem_map_of_mem hcode)

theorem Hold.deleteRole (hok : role ≠ id) :
    Hold ((Write.deleteRole id).apply T) user role :=
  ⟨h.1, mem_filter.mpr ⟨h.2.1, decide_eq_true hok⟩, mem_filter.mpr ⟨h.2.2, decide_eq_true hok⟩⟩

theorem Hold.administered : Administered T := ⟨(user, role), h.2.1, h⟩

end

/-- What every write of a transaction keeps, the transaction keeps. -/
theorem applyAll_keeps (P : Tables → Prop) (hT : P T)
    (h : ∀ w ∈ writes, ∀ T, P T → P (w.apply T)) : P (applyAll T writes) := by
  induction writes generalizing T with
  | nil => exact hT
  | cons w rest ih =>
    exact ih (h w (mem_cons_self ..) T hT) fun v hv => h v (mem_cons_of_mem _ hv)

theorem Hold.keeps (h : Hold T user role)
    (hw : ∀ w ∈ writes, ∀ T, Hold T user role → Hold (w.apply T) user role) :
    Administered (applyAll T writes) :=
  (applyAll_keeps (Hold · user role) h hw).administered

end Writes

/-! ## What an operation writes -/

/-- Rows that are all of one id. -/
def OfId {α : Type} (id : Nat) (rows : List (Nat × α)) : Prop := ∀ p ∈ rows, p.1 = id

/-- The writes an operation may make. -/
def About : Operation → Write → Prop
  | .createRole id _ _ _, w =>
    (∃ row, w = .insertRole row) ∨ ∃ codes, w = .replaceRolePermissions id [] codes
  | .updateRole id value, w =>
    w = .updateRole id value.name value.description ∨
      ∃ dropped codes codes', w = .replaceRolePermissions id dropped codes' ∧ OfId id dropped ∧
        codes ∈ value.permissions ∧ ∀ c ∈ codes, c ∈ codes'
  | .deleteRole id, w =>
    (∃ dropped, w = .replaceRolePermissions id dropped [] ∧ OfId id dropped) ∨ w = .deleteRole id
  | .updateUser id value, w =>
    w = .updateUser id value.status value.passwordHash ∨
      ∃ dropped roleIds, w = .replaceUserRoles id dropped roleIds ∧ OfId id dropped ∧
        roleIds ∈ value.roleIds
  | .archiveUser id, w => w = .updateUser id (some .archived) none

theorem OfId.not_mem {α : Type} {id key : Nat} {rows : List (Nat × α)} (h : OfId id rows)
    (hne : key ≠ id) (a : α) : (key, a) ∉ rows :=
  fun hmem => hne (h _ hmem)

theorem ofId_filter {α : Type} (id : Nat) (rows : List (Nat × α)) :
    OfId id (rows.filter (·.1 = id)) :=
  fun _ hp => of_decide_eq_true (mem_filter.mp hp).2

variable {op : Operation}

/-- **What is spared survives.** -/
theorem Spares.survives {T : Tables} {writes : List Write} (h : Spares T op)
    (hT : Administered T) (hw : ∀ w ∈ writes, About op w) : Administered (applyAll T writes) := by
  cases op with
  | createRole id name description permissions =>
    refine applyAll_keeps Administered hT fun w hmem T' ⟨p, _, hp⟩ => ?_
    rcases hw w hmem with ⟨row, rfl⟩ | ⟨codes, rfl⟩
    · exact ⟨p, hp.2.1, hp⟩
    · exact (hp.replaceRolePermissions (.inl not_mem_nil)).administered
  | updateRole id value =>
    by_cases hcodes : ∃ codes ∈ value.permissions, MANAGE ∉ codes
    · obtain ⟨codes, hcodes, hnot⟩ := hcodes
      obtain ⟨p, -, hne, hp⟩ := (h codes hcodes).resolve_left hnot
      refine hp.keeps fun w hmem T' hp => ?_
      rcases hw w hmem with rfl | ⟨dropped, codes, codes', rfl, hof, -⟩
      · exact hp
      · exact hp.replaceRolePermissions (.inl (hof.not_mem hne _))
    · push Not at hcodes
      obtain ⟨p, -, hp⟩ := hT
      refine hp.keeps fun w hmem T' hp => ?_
      rcases hw w hmem with rfl | ⟨dropped, codes, codes', rfl, hof, hvalue, hsub⟩
      · exact hp
      · -- the role keeps the permission, or is another role
        by_cases heq : p.2 = id
        · exact hp.replaceRolePermissions (.inr ⟨heq, hsub _ (hcodes codes hvalue)⟩)
        · exact hp.replaceRolePermissions (.inl (hof.not_mem heq _))
  | deleteRole id =>
    obtain ⟨p, -, hne, hp⟩ := h
    refine hp.keeps fun w hmem T' hp => ?_
    rcases hw w hmem with ⟨dropped, rfl, hof⟩ | rfl
    · exact hp.replaceRolePermissions (.inl (hof.not_mem hne _))
    · exact hp.deleteRole hne
  | updateUser id value =>
    rcases h with ⟨hstatus, hroles⟩ | ⟨p, -, hne, hp⟩
    · have hkeeps : Administered (applyAll T writes) ∧
          ∀ roleIds ∈ value.roleIds, ∃ r ∈ roleIds,
            (r, MANAGE) ∈ (applyAll T writes).rolePermissions := by
        refine applyAll_keeps (fun T => Administered T ∧ ∀ roleIds ∈ value.roleIds,
          ∃ r ∈ roleIds, (r, MANAGE) ∈ T.rolePermissions) ⟨hT, hroles⟩
          fun w hmem T' ⟨⟨p, _, hp⟩, hroles'⟩ => ?_
        rcases hw w hmem with rfl | ⟨dropped, roleIds, rfl, hof, hvalue⟩
        · exact ⟨(hp.updateUser _ (.inr hstatus)).administered, hroles'⟩
        · refine ⟨?_, hroles'⟩
          by_cases heq : p.1 = id
          · obtain ⟨r, hr, hgrants⟩ := hroles' roleIds hvalue
            subst heq
            exact (hp.given dropped hr hgrants).administered
          · exact (hp.replaceUserRoles roleIds (hof.not_mem heq _)).administered
      exact hkeeps.1
    · refine hp.keeps fun w hmem T' hp => ?_
      rcases hw w hmem with rfl | ⟨dropped, roleIds, rfl, hof, -⟩
      · exact hp.updateUser _ (.inl hne)
      · exact hp.replaceUserRoles roleIds (hof.not_mem hne _)
  | archiveUser id =>
    obtain ⟨p, -, hne, hp⟩ := h
    refine hp.keeps fun w hmem T' hp => ?_
    obtain rfl := hw w hmem
    exact hp.updateUser _ (.inl hne)

/-! ## The statements of an operation -/

/-- From its fourth statement on, an update of a role has the permissions it was given. -/
def Resolved (op : Operation) (done : Nat) (l : Locals) : Prop :=
  match op with
  | .updateRole _ value => 3 ≤ done → ∀ codes ∈ value.permissions, ∀ c ∈ codes, c ∈ l.permissionIds
  | _ => True

section Statements

variable {env : Setting} {userId done : Nat} {statement : Statement} {T : Tables} {l l' : Locals}
  {writes : List Write} {id : Nat}

theorem resolvePermissionIds_ok {codes ids : List String}
    (h : resolvePermissionIds env codes = .ok ids) : ∀ c ∈ codes, c ∈ ids := by
  simp only [resolvePermissionIds] at h
  split at h
  · cases h
  · cases h
    exact fun c hc => mem_dedup.mpr hc

/-- One that writes nothing. -/
theorem about_nil {w : Write} (h : w ∈ ([] : List Write)) : About op w := by
  cases h

theorem createRole_about {name : String} {description : Option String} {permissions : List String}
    (hget : (createRole env id name description permissions)[done]? = some statement)
    (h : statement T l = .ok (writes, l')) :
    ∀ w ∈ writes, About (.createRole id name description permissions) w := by
  rcases done with _ | _ | n
  · cases hget
    obtain ⟨ids, -, h⟩ := bind_eq_ok h
    cases h
    exact fun _ => about_nil
  · cases hget
    obtain ⟨_, -, h⟩ := bind_eq_ok h
    split at h
    · cases h
    · rename_i hfresh
      push Not at hfresh
      cases h
      -- a role that is not there yet has no permissions to drop
      have hnone : T.rolePermissions.filter (·.1 = id) = [] := by
        refine filter_eq_nil_iff.mpr fun p hp heq => hfresh.2 ?_
        rw [← of_decide_eq_true heq]
        exact mem_map_of_mem hp
      intro w hw
      rcases mem_cons.mp hw with rfl | hw
      · exact .inl ⟨_, rfl⟩
      · rw [mem_singleton.mp hw, replaceRolePermissions, hnone]
        exact .inr ⟨_, rfl⟩
  · cases hget

theorem updateRole_about {value : RoleChange}
    (hget : (updateRole env id value)[done]? = some statement)
    (hres : Resolved (.updateRole id value) done l) (h : statement T l = .ok (writes, l')) :
    (∀ w ∈ writes, About (.updateRole id value) w) ∧
      Resolved (.updateRole id value) (done + 1) l' := by
  have hearly : ∀ n, n < 3 → ∀ l : Locals, Resolved (.updateRole id value) n l :=
    fun n hn l hle => absurd hle (by omega)
  rcases done with _ | _ | _ | _ | _ | _ | n
  · cases hget
    obtain ⟨⟨before, n⟩, -, h⟩ := bind_eq_ok h
    simp only at h
    split at h
    · cases h
    · cases h
      exact ⟨fun _ => about_nil, hearly 1 (by decide) _⟩
  · cases hget
    cases h
    exact ⟨fun _ => about_nil, hearly 2 (by decide) _⟩
  · cases hget
    split at h
    · rename_i hnone
      cases h
      refine ⟨fun _ => about_nil, fun _ codes hcodes => ?_⟩
      rw [hnone] at hcodes
      cases hcodes
    · rename_i codes hcodes
      obtain ⟨ids, hids, h⟩ := bind_eq_ok h
      cases h
      refine ⟨fun _ => about_nil, fun _ codes' hcodes' => ?_⟩
      obtain rfl := Option.some.inj (hcodes.symm.trans hcodes')
      exact resolvePermissionIds_ok hids
  · cases hget
    split at h
    · split at h
      · obtain ⟨_, -, h⟩ := bind_eq_ok h
        cases h
        exact ⟨fun w hw => .inl (mem_singleton.mp hw), fun _ => hres (Nat.le_refl _)⟩
      · cases h
        exact ⟨fun w hw => .inl (mem_singleton.mp hw), fun _ => hres (Nat.le_refl _)⟩
    · cases h
      exact ⟨fun _ => about_nil, fun _ => hres (Nat.le_refl _)⟩
  · cases hget
    split at h
    · cases h
      exact ⟨fun _ => about_nil, fun _ => hres (by decide)⟩
    · rename_i codes hcodes
      cases h
      refine ⟨fun w hw => .inr ⟨_, codes, _, mem_singleton.mp hw, ofId_filter id _, hcodes,
        hres (by decide) codes hcodes⟩, fun _ => hres (by decide)⟩
  · cases hget
    split at h
    · cases h
      exact ⟨fun _ => about_nil, fun _ => hres (by decide)⟩
    · obtain ⟨_, -, h⟩ := bind_eq_ok h
      cases h
      exact ⟨fun _ => about_nil, fun _ => hres (by decide)⟩
  · cases hget

theorem deleteRole_about (hget : (deleteRole id)[done]? = some statement)
    (h : statement T l = .ok (writes, l')) : ∀ w ∈ writes, About (.deleteRole id) w := by
  rcases done with _ | _ | _ | _ | _ | n
  · cases hget
    obtain ⟨⟨role, userCount⟩, -, h⟩ := bind_eq_ok h
    simp only at h
    split at h
    · cases h
    · split at h
      · cases h
      · cases h
        exact fun _ => about_nil
  · cases hget
    cases h
    exact fun _ => about_nil
  · cases hget
    cases h
    exact fun w hw => .inl ⟨_, mem_singleton.mp hw, ofId_filter id _⟩
  · cases hget
    cases h
    exact fun w hw => .inr (mem_singleton.mp hw)
  · cases hget
    obtain ⟨_, -, h⟩ := bind_eq_ok h
    cases h
    exact fun _ => about_nil
  · cases hget

theorem updateUser_about {value : UserChange}
    (hget : (updateUser id value)[done]? = some statement) (h : statement T l = .ok (writes, l')) :
    ∀ w ∈ writes, About (.updateUser id value) w := by
  rcases done with _ | _ | _ | n
  · cases hget
    obtain ⟨_, -, h⟩ := bind_eq_ok h
    cases h
    exact fun _ => about_nil
  · cases hget
    split at h
    · cases h
      exact fun w hw => .inl (mem_singleton.mp hw)
    · cases h
      exact fun _ => about_nil
  · cases hget
    simp only at h
    split at h
    · cases h
      exact fun _ => about_nil
    · rename_i roleIds hroles
      split at h
      · cases h
      · cases h
        exact fun w hw => .inr ⟨_, roleIds, mem_singleton.mp hw, ofId_filter id _, hroles⟩
  · cases hget

theorem archiveUser_about (hget : (archiveUser userId id)[done]? = some statement)
    (h : statement T l = .ok (writes, l')) : ∀ w ∈ writes, About (.archiveUser id) w := by
  rcases done with _ | _ | n
  · cases hget
    obtain ⟨_, -, h⟩ := bind_eq_ok h
    split at h
    · cases h
    · cases h
      exact fun _ => about_nil
  · cases hget
    cases h
    exact fun w hw => mem_singleton.mp hw
  · cases hget

/-- **A statement writes what its operation is about.** -/
theorem script_about (hget : (script env userId op)[done]? = some statement)
    (hres : Resolved op done l) (h : statement T l = .ok (writes, l')) :
    (∀ w ∈ writes, About op w) ∧ Resolved op (done + 1) l' := by
  cases op with
  | createRole id name description permissions => exact ⟨createRole_about hget h, trivial⟩
  | updateRole id value => exact updateRole_about hget hres h
  | deleteRole id => exact ⟨deleteRole_about hget h, trivial⟩
  | updateUser id value => exact ⟨updateUser_about hget h, trivial⟩
  | archiveUser id => exact ⟨archiveUser_about hget h, trivial⟩

end Statements

/-! ## Runs -/

/-- The writes of a transaction are those of its operation. -/
structure TxOk (x : Tx) : Prop where
  about : ∀ w ∈ x.writes, About x.op w
  resolved : Resolved x.op x.done x.locals

/-- What a step of the requests keeps. -/
structure Inv (s : State) : Prop where
  administered : Administered s.tables
  txs : ∀ t x, s.tx t = some x → TxOk x

theorem inv_init {tables : Tables} (h : Administered tables) : Inv (init tables) where
  administered := h
  txs _ _ hx := by cases hx

theorem Inv.ends {s : State} (h : Inv s) (t : Nat) : ∀ u x,
    Function.update s.tx t none u = some x → TxOk x :=
  fun u x hx => h.txs u x (Updates.erase_eq_some hx).2

/-- **One step.** -/
theorem inv_step {env : Setting} {s s' : State} {a : Action} (h : Inv s) (ha : Sparing s a)
    (hs : step env s a = some s') : Inv s' := by
  cases a with
  | begin t userId op =>
    rw [step] at hs
    split at hs
    · cases hs
      refine ⟨h.administered, fun u x hx => ?_⟩
      rcases Updates.update_eq_some hx with ⟨rfl, rfl⟩ | ⟨-, hx⟩
      · refine ⟨fun w hw => (by cases hw), ?_⟩
        cases op with
        | updateRole id value => exact fun hle => absurd hle (Nat.not_succ_le_zero 2)
        | _ => trivial
      · exact h.txs u x hx
    · cases hs
  | exec t =>
    rw [step] at hs
    split at hs
    · cases hs
    · rename_i x hx
      split at hs
      · cases hs
      · rename_i statement hget
        have hok := h.txs t x hx
        split at hs
        · rename_i writes l hexec
          obtain ⟨habout, hres⟩ := script_about hget hok.resolved hexec
          cases hs
          refine ⟨h.administered, fun u y hy => ?_⟩
          rcases Updates.update_eq_some hy with ⟨rfl, rfl⟩ | ⟨-, hy⟩
          · refine ⟨fun w hw => ?_, hres⟩
            rcases mem_append.mp hw with hw | hw
            · exact hok.about w hw
            · exact habout w hw
          · exact h.txs u y hy
        · cases hs
          exact ⟨h.administered, h.ends t⟩
  | commit t =>
    rw [step] at hs
    split at hs
    · cases hs
    · rename_i x hx
      split at hs
      · cases hs
        exact ⟨(ha x hx).survives h.administered (h.txs t x hx).about, h.ends t⟩
      · cases hs
  | abort t =>
    obtain ⟨x, -, rfl⟩ := Option.map_eq_some_iff.mp hs
    exact ⟨h.administered, h.ends t⟩

/-- Only a commit changes anything: an operation that is refused has changed nothing. -/
theorem unchanged_of_step {env : Setting} {s s' : State} {a : Action} (ha : ∀ t, a ≠ .commit t)
    (hs : step env s a = some s') : s'.tables = s.tables := by
  cases a with
  | begin t userId op =>
    rw [step] at hs
    split at hs
    · cases hs
      rfl
    · cases hs
  | exec t =>
    rw [step] at hs
    split at hs
    · cases hs
    · split at hs
      · cases hs
      · split at hs
        all_goals
          cases hs
          rfl
  | commit t => exact absurd rfl (ha t)
  | abort t =>
    obtain ⟨x, -, rfl⟩ := Option.map_eq_some_iff.mp hs
    rfl

/-- **Role administration survives** every run in which what commits spares an administrator, and
what does not commit changes nothing. -/
theorem administration_survives (env : Setting) (tables : Tables) (h : Administered tables)
    (actions : List Action) (s : State)
    (hsparing : (administering env).Along Sparing (init tables) actions)
    (hrun : (administering env).run (init tables) actions = some s) :
    Administered s.tables ∧ ∀ a s', (∀ t, a ≠ .commit t) → step env s a = some s' →
      s'.tables = s.tables :=
  ⟨((administering env).invariant_along (fun _ _ _ hi ha hs => inv_step hi ha hs) (inv_init h)
    hsparing hrun).administered, fun _ _ ha hs => unchanged_of_step ha hs⟩

/-! ### Administrators who remain, and who do not -/

def catalogue : Setting := ⟨["users.view", MANAGE]⟩

/-- Two users, each with a role of its own that grants `users.manage`; the second's status is
given. -/
def twoAdministrators (status : UserStatus) : Tables where
  users := [⟨1, "ann", .active, "h1"⟩, ⟨2, "bea", status, "h2"⟩]
  roles := [⟨1, "Administrator", none, true⟩, ⟨2, "Deputy", none, false⟩]
  userRoles := [(1, 1), (2, 2)]
  rolePermissions := [(1, MANAGE), (2, MANAGE)]

/-- A whole operation. -/
def whole (t userId : Nat) (op : Operation) (statements : Nat) : List Action :=
  .begin t userId op :: List.replicate statements (.exec t) ++ [.commit t]

/-- Ann archives Bea. -/
def archived : List Action := whole 0 1 (.archiveUser 2) 2

theorem administration_survives_archived :
    ∃ s, (administering catalogue).run (init (twoAdministrators .active)) archived = some s ∧
      Administered s.tables ∧ ∀ a s', (∀ t, a ≠ .commit t) → step catalogue s a = some s' →
        s'.tables = s.tables :=
  ⟨_, rfl, administration_survives catalogue (twoAdministrators .active) (by decide) archived _
    ((administering catalogue).along_of_check Sparing (by decide)) rfl⟩

/-- Ann, the only active administrator, disables her own account. -/
def disablesHerself : List Action := whole 0 1 (.updateUser 1 ⟨some .disabled, none, none⟩) 3

/-- She takes the permission from her own role, and Bea counts, who is disabled. -/
def countsTheDisabled : List Action := whole 0 1 (.updateRole 1 ⟨none, none, some ["users.view"]⟩) 6

/-- Ann archives Bea while Bea archives Ann. -/
def eachOther : List Action :=
  [.begin 0 1 (.archiveUser 2), .begin 1 2 (.archiveUser 1), .exec 0, .exec 1, .exec 0, .exec 1,
    .commit 0, .commit 1]

/-- **Administration is lost**: nobody looks at a change of a user, a disabled user is counted, and
two operations do not see each other. -/
theorem administration_is_lost :
    (∃ s, (administering catalogue).run (init (twoAdministrators .disabled)) disablesHerself =
      some s ∧ ¬ Administered s.tables) ∧
    (∃ s, (administering catalogue).run (init (twoAdministrators .disabled)) countsTheDisabled =
      some s ∧ ¬ Administered s.tables) ∧
    ∃ s, (administering catalogue).run (init (twoAdministrators .active)) eachOther = some s ∧
      ¬ Administered s.tables := by
  refine ⟨⟨_, rfl, ?_⟩, ⟨_, rfl, ?_⟩, ⟨_, rfl, ?_⟩⟩ <;> decide

end Jkannel.Security.Roles
