import Yatagarasu.Core.Store
import Yatagarasu.Library.Script

/-! The migration of a `deliveries` table whose `binding_id` is NOT NULL, statement by statement:
each may fail, and the process may end after any of them. -/

namespace Yatagarasu

open Sqlite Script

/-- A row of `deliveries` as SQLite keeps it; `none` is NULL. -/
structure StoredDelivery where
  deliveryId : Option String
  eventId : Option String
  attemptId : Option String
  bindingId : Option String
  recipientId : Option String
  deliveryMode : Option String
  state : Option String
  disposition : Option String
  deriving DecidableEq

structure DeliveriesTable where
  bindingNotNull : Bool
  rows : List StoredDelivery
  deriving DecidableEq

/-- A foreign key of some row: to a delivery, or to a row of another table. -/
inductive ForeignKey
  | delivery (deliveryId : String)
  | other (table key : String)
  deriving DecidableEq

/-- A database file. Of the tables beside the deliveries it has what `foreign_key_check` reads. -/
structure CoreFile where
  deliveries : Option DeliveriesTable
  deliveriesLegacyNotNull : Option DeliveriesTable
  keys : List (String × String)
  references : List ForeignKey
  deriving DecidableEq

/-- The statements of an open, in the order of the source. -/
inductive OpenStatement
  | foreignKeysOn
  | createIfNotExists (table : String)
  | ensureColumn (table column : String)
  | commitSchema
  | deliveriesInfo
  | commitBeforeRebuild
  | foreignKeysOff
  | legacyAlterTableOn
  | rename
  | create
  | copy
  | drop
  | foreignKeyCheck
  | commitRebuild
  | rollbackRebuild
  | legacyAlterTableOff
  | foreignKeysBackOn
  deriving DecidableEq

abbrev OpenScript (α : Type) := Script OpenStatement PyError CoreFile α

namespace CoreFile

def createDeliveries (file : CoreFile) : CoreFile :=
  match file.deliveries with
  | some _ => file
  | none => { file with deliveries := some ⟨false, []⟩ }

def bindingNotNull (file : CoreFile) : Bool :=
  (file.deliveries.map (·.bindingNotNull)).getD false

def renameDeliveries (file : CoreFile) : Except PyError CoreFile :=
  if file.deliveries.isNone ∨ file.deliveriesLegacyNotNull.isSome then .error .operationalError
  else .ok { file with deliveries := none, deliveriesLegacyNotNull := file.deliveries }

def createNullable (file : CoreFile) : Except PyError CoreFile :=
  if file.deliveries.isSome then .error .operationalError
  else .ok { file with deliveries := some ⟨false, []⟩ }

/-- The constraints of the new table: `NOT NULL`, `CHECK (delivery_mode IN …)`, `PRIMARY KEY`. -/
def Admits (rows : List StoredDelivery) : Prop :=
  (∀ row ∈ rows, row.eventId ≠ none ∧ row.attemptId ≠ none ∧ row.recipientId ≠ none ∧
    row.deliveryMode ∈ [some "session-bound", some "channel-native"] ∧ row.state ≠ none) ∧
  (rows.filterMap (·.deliveryId)).Nodup

instance (rows : List StoredDelivery) : Decidable (Admits rows) :=
  inferInstanceAs (Decidable (_ ∧ _))

/-- `INSERT INTO deliveries … SELECT … FROM deliveries_legacy_not_null` -/
def copyRows (file : CoreFile) : Option CoreFile :=
  match file.deliveries, file.deliveriesLegacyNotNull with
  | some table, some legacy =>
    if Admits (table.rows ++ legacy.rows) then
      some { file with deliveries := some { table with rows := table.rows ++ legacy.rows } }
    else none
  | _, _ => none

def dropLegacy (file : CoreFile) : Except PyError CoreFile :=
  if file.deliveriesLegacyNotNull.isNone then .error .operationalError
  else .ok { file with deliveriesLegacyNotNull := none }

def violations (file : CoreFile) : List ForeignKey :=
  file.references.filter fun
    | .delivery deliveryId => ¬ ((file.deliveries.map (·.rows)).getD []).any
        (·.deliveryId = some deliveryId)
    | .other table key => (table, key) ∉ file.keys

end CoreFile

/-- A pragma sets the connection, not the file. -/
def pragma (label : OpenStatement) : OpenScript Unit :=
  statement label (define fun file => .ok file)

/-- The tables and the index that the script creates after `deliveries`. -/
def otherTables : List String :=
  ["providers", "provider_evidence", "principal_bindings", "platform_message_bindings", "receipts",
    "session_bindings", "idx_one_active_binding_per_recipient", "binding_proof_methods",
    "audit_log", "receipt_rejections", "rooms", "room_members", "canonical_events", "broadcasts",
    "broadcast_recipients", "broadcast_audit"]

def ensuredColumns : List (String × String) :=
  [("providers", "health"), ("receipts", "session_id"), ("receipts", "marker_signature"),
    ("receipts", "source_event_chain"), ("receipts", "turn_id")]

/-- A statement that only creates or extends other tables. -/
def extendOthers : List OpenStatement → OpenScript Unit
  | [] => pure ()
  | label :: rest => do
    statement label (define fun file => .ok file)
    extendOthers rest

def migrateSchema : OpenScript Unit := do
  statement (.createIfNotExists "deliveries") (define fun file => .ok file.createDeliveries)
  extendOthers (otherTables.map .createIfNotExists)
  extendOthers (ensuredColumns.map fun (table, column) => .ensureColumn table column)
  statement .commitSchema commit

/-- The copy opens the transaction that the block ends; the statements before it do not. -/
def fillDeliveries : OpenScript Unit := do
  statement .copy (execute CoreFile.copyRows)
  statement .drop (define CoreFile.dropLegacy)
  let violations ← statement .foreignKeyCheck (fetch CoreFile.violations)
  if violations ≠ [] then raise (.raised "delivery binding migration broke foreign-key integrity")

def rebuildDeliveries : OpenScript Unit := do
  statement .rename (define CoreFile.renameDeliveries)
  statement .create (define CoreFile.createNullable)
  fillDeliveries

def rebuildBlock : OpenScript Unit :=
  transaction .commitRebuild .rollbackRebuild rebuildDeliveries

def restorePragmas : OpenScript Unit := do
  pragma .legacyAlterTableOff
  pragma .foreignKeysBackOn

/-- Rebuild the pre-broadcast table whose binding column was NOT NULL. -/
def migrateNullableDeliveryBinding : OpenScript Unit := do
  let notNull ← statement .deliveriesInfo (fetch CoreFile.bindingNotNull)
  if notNull then do
    statement .commitBeforeRebuild commit
    pragma .foreignKeysOff
    pragma .legacyAlterTableOn
    andFinally rebuildBlock restorePragmas

/-- What an open does before it looks at the deliveries. -/
def prepare : OpenScript Unit := do
  pragma .foreignKeysOn
  migrateSchema

/-- `CoreStore.__init__` -/
def openStore : OpenScript Unit := do
  prepare
  migrateNullableDeliveryBinding

/-- How an open ends, and the file that it leaves: what no commit reached is gone. -/
def CoreFile.opened (file : CoreFile) (fate : OpenStatement → Fate PyError) :
    Except (Halt PyError) Unit × CoreFile :=
  let (result, connection) := openStore.exec fate { committed := file, working := file }
  (result, connection.committed)

/-- The file after a sequence of opens. -/
def fileAfter (file : CoreFile) (opens : List (OpenStatement → Fate PyError)) : CoreFile :=
  opens.foldl (fun file fate => (file.opened fate).2) file

theorem createDeliveries_of_some {file : CoreFile} {table : DeliveriesTable}
    (h : file.deliveries = some table) : file.createDeliveries = file := by
  simp [CoreFile.createDeliveries, h]

section Preparation

variable {P : CoreFile → Prop} {file : CoreFile}

theorem lands_pragma (label : OpenStatement) : Lands P (pragma label) P P :=
  lands_define (fun _ h => h) (fun _ h => h) (fun _ h => h)

theorem completes_pragma (label : OpenStatement) : Completes [label] (pragma label) :=
  completes_statement fun _ => rfl

theorem lands_extendOthers (labels : List OpenStatement) : Lands P (extendOthers labels) P P := by
  induction labels with
  | nil => exact lands_pure ()
  | cons label labels ih => exact lands_bind (lands_pragma label) fun _ => ih

theorem completes_extendOthers (labels : List OpenStatement) :
    Completes labels (extendOthers labels) := by
  induction labels with
  | nil => exact completes_pure
  | cons label labels ih => exact completes_bind (completes_pragma label) ih

/-- The statements that an open executes before it looks at the deliveries. -/
def preparation : List OpenStatement :=
  [.foreignKeysOn] ++ ([.createIfNotExists "deliveries"] ++
    (otherTables.map .createIfNotExists ++
      ((ensuredColumns.map fun (table, column) => .ensureColumn table column) ++ [.commitSchema])))

theorem completes_prepare : Completes preparation prepare := by
  apply completes_bind (completes_pragma .foreignKeysOn)
  apply completes_bind (completes_statement fun _ => rfl)
  apply completes_bind (completes_extendOthers _)
  apply completes_bind (completes_extendOthers _)
  exact completes_statement fun _ => rfl

/-- They create the deliveries when there are none, and leave the modelled tables otherwise. -/
theorem lands_prepare : Lands (· = file) prepare (· = file.createDeliveries)
    (fun file' => file' = file ∨ file' = file.createDeliveries) := by
  have hcreated : ∀ {x : OpenScript Unit}, Lands (· = file.createDeliveries) x
      (· = file.createDeliveries) (· = file.createDeliveries) →
      Lands (· = file.createDeliveries) x (· = file.createDeliveries)
        (fun file' => file' = file ∨ file' = file.createDeliveries) :=
    fun h => lands_mono h fun _ => Or.inr
  apply lands_bind (lands_mono (lands_pragma _) fun _ => Or.inl)
  intro _
  have hcreate : Lands (· = file) (statement (.createIfNotExists "deliveries")
      (define fun file => .ok file.createDeliveries) : OpenScript Unit) (· = file.createDeliveries)
      (fun file' => file' = file ∨ file' = file.createDeliveries) := by
    apply lands_define
    · rintro _ rfl
      rfl
    · rintro _ rfl
      exact Or.inl rfl
    · rintro _ rfl
      exact Or.inr rfl
  apply lands_bind hcreate
  intro _
  apply lands_bind (hcreated (lands_extendOthers _))
  intro _
  apply lands_bind (hcreated (lands_extendOthers _))
  intro _
  exact hcreated lands_commit

end Preparation

section Rebuild

variable {file : CoreFile} {rows : List StoredDelivery} {fate : OpenStatement → Fate PyError}

/-- The file before any rebuild, with its deliveries bound. -/
def CoreFile.prior (file : CoreFile) (rows : List StoredDelivery) : CoreFile :=
  { file with deliveries := some ⟨true, rows⟩ }

def CoreFile.migrated (file : CoreFile) (rows : List StoredDelivery) : CoreFile :=
  { file with deliveries := some ⟨false, rows⟩, deliveriesLegacyNotNull := none }

/-- The rows are only in the renamed table. -/
def CoreFile.Stranded (file : CoreFile) (rows : List StoredDelivery) : Prop :=
  (file.deliveries = none ∨ file.deliveries = some ⟨false, []⟩) ∧
    file.deliveriesLegacyNotNull = some ⟨true, rows⟩

def CoreFile.renamed (file : CoreFile) (rows : List StoredDelivery) : CoreFile :=
  { file with deliveries := none, deliveriesLegacyNotNull := some ⟨true, rows⟩ }

def CoreFile.created (file : CoreFile) (rows : List StoredDelivery) : CoreFile :=
  { file with deliveries := some ⟨false, []⟩, deliveriesLegacyNotNull := some ⟨true, rows⟩ }

/-- Each statement of the transaction passes, and neither the new constraints nor a foreign key is
violated. -/
def CoreFile.Fills (file : CoreFile) (rows : List StoredDelivery)
    (fate : OpenStatement → Fate PyError) : Prop :=
  fate .copy = .passes ∧ CoreFile.Admits rows ∧ fate .drop = .passes ∧
    fate .foreignKeyCheck = .passes ∧ (file.migrated rows).violations = []

theorem copyRows_created : (file.created rows).copyRows = if CoreFile.Admits rows then
    some { file.created rows with deliveries := some ⟨false, rows⟩ } else none := by
  simp [CoreFile.copyRows, CoreFile.created]

/-- The transaction commits nothing itself, and goes through exactly when it fills the table. -/
theorem fillDeliveries_exec {c : Connection CoreFile} {result : Except (Halt PyError) Unit}
    (h : fillDeliveries.exec fate ⟨file.created rows, file.created rows, false⟩ = (result, c)) :
    c.committed = file.created rows ∧
      ((∃ halt, result = .error halt) ∧ ¬ file.Fills rows fate ∨
        result = .ok () ∧ c.working = file.migrated rows ∧ file.Fills rows fate) := by
  have hstops : ∀ {label}, ((∃ e, fate label = .raises e) ∨ fate label = .crashes) →
      fate label ≠ .passes := by
    rintro label (⟨e, he⟩ | hcrashes) hpasses
    · cases he.symm.trans hpasses
    · cases hcrashes.symm.trans hpasses
  unfold fillDeliveries at h
  by_cases hadmits : CoreFile.Admits rows
  · have hcopy : (execute CoreFile.copyRows : Action PyError CoreFile Unit).exec
        ⟨file.created rows, file.created rows, false⟩ = (.ok (), ⟨file.created rows,
          { file.created rows with deliveries := some ⟨false, rows⟩ }, true⟩) := by
      simp [Action.exec, execute, ExceptT.run, StateT.run, copyRows_created, hadmits]
    rcases next_statement hcopy h with ⟨halt, rfl, hhalt⟩ | ⟨hcopied, h⟩
    · refine ⟨?_, Or.inl ⟨⟨halt, rfl⟩, ?_⟩⟩
      · rcases hhalt with ⟨-, rfl⟩ | ⟨-, rfl⟩ <;> rfl
      · exact fun hfills => hstops (hhalt.imp And.left And.left) hfills.1
    have hdrop : (define CoreFile.dropLegacy : Action PyError CoreFile Unit).exec
        ⟨file.created rows, { file.created rows with deliveries := some ⟨false, rows⟩ }, true⟩ =
          (.ok (), ⟨file.created rows, file.migrated rows, true⟩) := rfl
    rcases next_statement hdrop h with ⟨halt, rfl, hhalt⟩ | ⟨hdropped, h⟩
    · refine ⟨?_, Or.inl ⟨⟨halt, rfl⟩, ?_⟩⟩
      · rcases hhalt with ⟨-, rfl⟩ | ⟨-, rfl⟩ <;> rfl
      · exact fun hfills => hstops (hhalt.imp And.left And.left) hfills.2.2.1
    have hcheck : (fetch CoreFile.violations : Action PyError CoreFile _).exec
        ⟨file.created rows, file.migrated rows, true⟩ =
          (.ok (file.migrated rows).violations,
            ⟨file.created rows, file.migrated rows, true⟩) := rfl
    rcases next_statement hcheck h with ⟨halt, rfl, hhalt⟩ | ⟨hchecked, h⟩
    · refine ⟨?_, Or.inl ⟨⟨halt, rfl⟩, ?_⟩⟩
      · rcases hhalt with ⟨-, rfl⟩ | ⟨-, rfl⟩ <;> rfl
      · exact fun hfills => hstops (hhalt.imp And.left And.left) hfills.2.2.2.1
    by_cases hviolations : (file.migrated rows).violations = []
    · simp only [hviolations, ne_eq, not_true_eq_false, if_false] at h
      cases h
      exact ⟨rfl, Or.inr ⟨rfl, rfl, hcopied, hadmits, hdropped, hchecked, hviolations⟩⟩
    · simp only [ne_eq, hviolations, not_false_eq_true, if_true] at h
      cases h
      exact ⟨rfl, Or.inl ⟨⟨_, rfl⟩, fun hfills => hviolations hfills.2.2.2.2⟩⟩
  · have hcopy : (execute CoreFile.copyRows : Action PyError CoreFile Unit).exec
        ⟨file.created rows, file.created rows, false⟩ =
          (.error .integrityError, ⟨file.created rows, file.created rows, true⟩) := by
      simp [Action.exec, execute, ExceptT.run, StateT.run, copyRows_created, hadmits]
      rfl
    obtain ⟨halt, rfl, hc⟩ := failed_statement hcopy h
    refine ⟨?_, Or.inl ⟨⟨halt, rfl⟩, fun hfills => hadmits hfills.2.1⟩⟩
    rcases hc with rfl | rfl <;> rfl

/-- The rebuild changes nothing, strands the rows, or moves them all. -/
theorem rebuildDeliveries_exec {c : Connection CoreFile} {result : Except (Halt PyError) Unit}
    (hlegacy : file.deliveriesLegacyNotNull = none)
    (h : rebuildDeliveries.exec fate ⟨file.prior rows, file.prior rows, false⟩ = (result, c)) :
    ((∃ halt, result = .error halt) ∧ c.committed = file.prior rows ∧
        ∃ e, fate .rename = .raises e) ∨
      ((∃ halt, result = .error halt) ∧ c.committed.Stranded rows ∧
        (fate .rename = .crashes ∨ fate .rename = .passes ∧
          (fate .create ≠ .passes ∨ ¬ file.Fills rows fate))) ∨
      result = .ok () ∧ c.committed = file.created rows ∧ c.working = file.migrated rows ∧
        fate .rename = .passes ∧ fate .create = .passes ∧ file.Fills rows fate := by
  unfold rebuildDeliveries at h
  have hrename : (define CoreFile.renameDeliveries : Action PyError CoreFile Unit).exec
      ⟨file.prior rows, file.prior rows, false⟩ =
        (.ok (), ⟨file.renamed rows, file.renamed rows, false⟩) := by
    simp [Action.exec, define, ExceptT.run, StateT.run, CoreFile.renameDeliveries, CoreFile.prior,
      CoreFile.renamed, hlegacy]
  rcases next_statement hrename h with ⟨halt, rfl, ⟨hraises, rfl⟩ | ⟨hcrashes, rfl⟩⟩ |
    ⟨hrenamed, h⟩
  · exact Or.inl ⟨⟨halt, rfl⟩, rfl, hraises⟩
  · exact Or.inr (Or.inl ⟨⟨halt, rfl⟩, ⟨Or.inl rfl, rfl⟩, Or.inl hcrashes⟩)
  have hcreate : (define CoreFile.createNullable : Action PyError CoreFile Unit).exec
      ⟨file.renamed rows, file.renamed rows, false⟩ =
        (.ok (), ⟨file.created rows, file.created rows, false⟩) := rfl
  rcases next_statement hcreate h with ⟨halt, rfl, ⟨⟨e, he⟩, rfl⟩ | ⟨hcrashes, rfl⟩⟩ | ⟨hcreated, h⟩
  · exact Or.inr (Or.inl ⟨⟨halt, rfl⟩, ⟨Or.inl rfl, rfl⟩, Or.inr ⟨hrenamed, Or.inl (by simp [he])⟩⟩)
  · exact Or.inr (Or.inl ⟨⟨halt, rfl⟩, ⟨Or.inr rfl, rfl⟩,
      Or.inr ⟨hrenamed, Or.inl (by simp [hcrashes])⟩⟩)
  obtain ⟨hcommitted, ⟨hhalt, hfills⟩ | ⟨rfl, hworking, hfills⟩⟩ := fillDeliveries_exec h
  · refine Or.inr (Or.inl ⟨hhalt, ?_, Or.inr ⟨hrenamed, Or.inr hfills⟩⟩)
    rw [hcommitted]
    exact ⟨Or.inr rfl, rfl⟩
  · exact Or.inr (Or.inr ⟨rfl, hcommitted, hworking, hrenamed, hcreated, hfills⟩)

theorem settles_rebuildDeliveries : Settles rebuildDeliveries := by
  apply settles_bind (settles_define _)
  intro _
  apply settles_bind (settles_define _)
  intro _
  apply settles_bind (settles_execute _)
  intro _
  apply settles_bind (settles_define _)
  intro _
  apply settles_bind (settles_fetch _)
  intro violations
  by_cases h : violations = []
  · simp only [h, ne_eq, not_true_eq_false, if_false]
    exact settles_pure ()
  · simp only [ne_eq, h, not_false_eq_true, if_true]
    exact settles_raise _

theorem settles_rebuildBlock : Settles rebuildBlock := settles_transaction settles_rebuildDeliveries

theorem inert_restorePragmas : Inert restorePragmas :=
  inert_bind inert_define fun _ => inert_define

/-- The rebuild is stopped after its first statement and before its commit. -/
def CoreFile.CutShort (file : CoreFile) (rows : List StoredDelivery)
    (fate : OpenStatement → Fate PyError) : Prop :=
  fate .rename = .crashes ∨ fate .rename = .passes ∧ (fate .create ≠ .passes ∨
    ¬ file.Fills rows fate ∨ ∃ e, fate .commitRebuild = .raises e)

theorem rebuildBlock_exec (rows : List StoredDelivery) (fate : OpenStatement → Fate PyError)
    (hlegacy : file.deliveriesLegacyNotNull = none) :
    ((∃ halt, (rebuildBlock.exec fate ⟨file.prior rows, file.prior rows, false⟩).1 = .error halt) ∧
      (rebuildBlock.exec fate ⟨file.prior rows, file.prior rows, false⟩).2.committed =
        file.prior rows ∧ ¬ file.CutShort rows fate) ∨
    ((∃ halt, (rebuildBlock.exec fate ⟨file.prior rows, file.prior rows, false⟩).1 = .error halt) ∧
      (rebuildBlock.exec fate ⟨file.prior rows, file.prior rows, false⟩).2.committed.Stranded rows ∧
        file.CutShort rows fate) ∨
    (rebuildBlock.exec fate ⟨file.prior rows, file.prior rows, false⟩).2.committed =
      file.migrated rows ∧ ¬ file.CutShort rows fate := by
  unfold rebuildBlock CoreFile.CutShort
  cases hbody : rebuildDeliveries.exec fate ⟨file.prior rows, file.prior rows, false⟩ with
  | mk result c =>
    rcases rebuildDeliveries_exec hlegacy hbody with ⟨⟨halt, rfl⟩, hcommitted, e, hraises⟩ |
      ⟨⟨halt, rfl⟩, hstranded, hcut⟩ | ⟨rfl, hcommitted, hworking, hrenamed, hcreated, hfills⟩
    · obtain ⟨hhalt, hkept⟩ := transaction_halted .commitRebuild .rollbackRebuild hbody
      exact Or.inl ⟨hhalt, hkept.trans hcommitted, by simp [hraises]⟩
    · obtain ⟨hhalt, hkept⟩ := transaction_halted .commitRebuild .rollbackRebuild hbody
      refine Or.inr (Or.inl ⟨hhalt, hkept ▸ hstranded, ?_⟩)
      exact hcut.imp_right (And.imp_right (Or.imp_right Or.inl))
    · rcases transaction_done .commitRebuild .rollbackRebuild hbody with
        ⟨hraises, hhalt, hkept⟩ | ⟨hcommits, hkept⟩
      · refine Or.inr (Or.inl ⟨hhalt, ?_, Or.inr ⟨hrenamed, Or.inr (Or.inr hraises)⟩⟩)
        rw [hkept, hcommitted]
        exact ⟨Or.inr rfl, rfl⟩
      · refine Or.inr (Or.inr ⟨hkept.trans hworking, ?_⟩)
        simp [hrenamed, hcreated, hfills, hcommits]

/-- The statements between the preparation and the rebuild. -/
def approach : List OpenStatement :=
  [.deliveriesInfo, .commitBeforeRebuild, .foreignKeysOff, .legacyAlterTableOn]

theorem migrate_prior_cases {c : Connection CoreFile} {result : Except (Halt PyError) Unit}
    (h : migrateNullableDeliveryBinding.exec fate ⟨file.prior rows, file.prior rows, false⟩ =
      (result, c)) :
    ((∃ halt, result = .error halt) ∧ c.committed = file.prior rows ∧
        ∃ label ∈ approach, fate label ≠ .passes) ∨
      (∀ label ∈ approach, fate label = .passes) ∧
        (andFinally rebuildBlock restorePragmas).exec fate
          ⟨file.prior rows, file.prior rows, false⟩ = (result, c) := by
  have hstops : ∀ {label : OpenStatement} {p q : Prop},
      ((∃ e, fate label = .raises e) ∧ p ∨ fate label = .crashes ∧ q) → fate label ≠ .passes := by
    rintro label p q (⟨⟨e, he⟩, -⟩ | ⟨hcrashes, -⟩) hpasses
    · cases he.symm.trans hpasses
    · cases hcrashes.symm.trans hpasses
  have hkeeps : ∀ {label : OpenStatement} {c : Connection CoreFile},
      ((∃ e, fate label = .raises e) ∧ c = ⟨file.prior rows, file.prior rows, false⟩ ∨
        fate label = .crashes ∧ c = ⟨file.prior rows, file.prior rows, false⟩) →
      c.committed = file.prior rows := by
    rintro label c (⟨-, rfl⟩ | ⟨-, rfl⟩) <;> rfl
  unfold migrateNullableDeliveryBinding at h
  have hread : (fetch CoreFile.bindingNotNull : Action PyError CoreFile Bool).exec
      ⟨file.prior rows, file.prior rows, false⟩ =
        (.ok true, ⟨file.prior rows, file.prior rows, false⟩) := rfl
  have hcommit : (commit : Action PyError CoreFile Unit).exec
      ⟨file.prior rows, file.prior rows, false⟩ =
        (.ok (), ⟨file.prior rows, file.prior rows, false⟩) := rfl
  have hpragma : (define fun file => .ok file : Action PyError CoreFile Unit).exec
      ⟨file.prior rows, file.prior rows, false⟩ =
        (.ok (), ⟨file.prior rows, file.prior rows, false⟩) := rfl
  rcases next_statement hread h with ⟨halt, rfl, hhalt⟩ | ⟨hinfo, h⟩
  · exact Or.inl ⟨⟨halt, rfl⟩, hkeeps hhalt, .deliveriesInfo, by simp [approach], hstops hhalt⟩
  rw [if_pos rfl] at h
  rcases next_statement hcommit h with ⟨halt, rfl, hhalt⟩ | ⟨hbefore, h⟩
  · exact Or.inl ⟨⟨halt, rfl⟩, hkeeps hhalt, .commitBeforeRebuild, by simp [approach], hstops hhalt⟩
  rcases next_statement hpragma h with ⟨halt, rfl, hhalt⟩ | ⟨hoff, h⟩
  · exact Or.inl ⟨⟨halt, rfl⟩, hkeeps hhalt, .foreignKeysOff, by simp [approach], hstops hhalt⟩
  rcases next_statement hpragma h with ⟨halt, rfl, hhalt⟩ | ⟨hlegacyOn, h⟩
  · exact Or.inl ⟨⟨halt, rfl⟩, hkeeps hhalt, .legacyAlterTableOn, by simp [approach], hstops hhalt⟩
  exact Or.inr ⟨by simp [approach, hinfo, hbefore, hoff, hlegacyOn], h⟩

/-- A table under the name that the old one is to get refuses the rebuild. -/
theorem rebuildBlock_refused {table : DeliveriesTable} (rows : List StoredDelivery)
    (fate : OpenStatement → Fate PyError) (hlegacy : file.deliveriesLegacyNotNull = some table) :
    (∃ halt, (rebuildBlock.exec fate ⟨file.prior rows, file.prior rows, false⟩).1 = .error halt) ∧
      (rebuildBlock.exec fate ⟨file.prior rows, file.prior rows, false⟩).2.committed =
        file.prior rows := by
  have hrename : (define CoreFile.renameDeliveries : Action PyError CoreFile Unit).exec
      ⟨file.prior rows, file.prior rows, false⟩ =
        (.error .operationalError, ⟨file.prior rows, file.prior rows, false⟩) := by
    simp [Action.exec, define, ExceptT.run, StateT.run, CoreFile.renameDeliveries, CoreFile.prior,
      hlegacy]
  cases hbody : rebuildDeliveries.exec fate ⟨file.prior rows, file.prior rows, false⟩ with
  | mk result c =>
    obtain ⟨halt, rfl, hc⟩ := failed_statement hrename hbody
    obtain ⟨hhalt, hkept⟩ := transaction_halted .commitRebuild .rollbackRebuild hbody
    refine ⟨hhalt, hkept.trans ?_⟩
    rcases hc with rfl | rfl <;> rfl

end Rebuild

section Opens

variable {file file' : CoreFile} {rows : List StoredDelivery} {fate : OpenStatement → Fate PyError}
  {result : Except (Halt PyError) Unit}

/-- The open is stopped while the rows are only in the renamed table. -/
def CoreFile.Strands (file : CoreFile) (fate : OpenStatement → Fate PyError) : Prop :=
  (∀ label ∈ preparation ++ approach, fate label = .passes) ∧
    file.deliveriesLegacyNotNull = none ∧
      ∃ rows, file.deliveries = some ⟨true, rows⟩ ∧ file.CutShort rows fate

/-- The file and the result of an open, from those of its preparation. -/
theorem opened_cases (h : file.opened fate = (result, file')) :
    ((∃ halt, result = .error halt) ∧ (file' = file ∨ file' = file.createDeliveries) ∧
        ¬ ∀ label ∈ preparation, fate label = .passes) ∨
      (∀ label ∈ preparation, fate label = .passes) ∧ ∃ c,
        migrateNullableDeliveryBinding.exec fate
          ⟨file.createDeliveries, file.createDeliveries, false⟩ = (result, c) ∧
        c.committed = file' := by
  unfold CoreFile.opened openStore at h
  rw [Script.exec_bind] at h
  obtain ⟨hidle, hends⟩ := lands_prepare fate ⟨file, file, false⟩ ⟨rfl, rfl⟩ rfl
  have hcompletes := completes_prepare fate ⟨file, file, false⟩
  cases hrun : prepare.exec fate ⟨file, file, false⟩ with
  | mk r c =>
    rw [hrun] at h hidle hends hcompletes
    cases r with
    | error halt =>
      cases h
      exact Or.inl ⟨⟨halt, rfl⟩, hends, by simpa using hcompletes.not⟩
    | ok a =>
      obtain ⟨committed, working, inTransaction⟩ := c
      cases hidle.closed
      cases hidle.clean
      obtain rfl : committed = file.createDeliveries := hends
      dsimp only at h
      cases hmigrate : migrateNullableDeliveryBinding.exec fate
          ⟨file.createDeliveries, file.createDeliveries, false⟩ with
      | mk r c =>
        rw [hmigrate] at h
        cases h
        exact Or.inr ⟨hcompletes.mp rfl, c, rfl, rfl⟩

/-- Nothing is rebuilt where the binding may be null. -/
theorem migrate_skips {c c' : Connection CoreFile} (hnull : c.working.bindingNotNull = false)
    (h : migrateNullableDeliveryBinding.exec fate c = (result, c')) :
    c' = c ∧ (fate .deliveriesInfo = .passes → result = .ok ()) := by
  have hread : (fetch CoreFile.bindingNotNull : Action PyError CoreFile Bool).exec c =
      (.ok false, c) := by
    rw [exec_fetch, hnull]
  rcases next_statement hread h with ⟨halt, rfl, hhalt⟩ | ⟨-, h⟩
  · refine ⟨?_, ?_⟩
    · rcases hhalt with ⟨-, rfl⟩ | ⟨-, rfl⟩ <;> rfl
    · rintro hpasses
      rcases hhalt with ⟨⟨e, he⟩, -⟩ | ⟨hcrashes, -⟩
      · cases he.symm.trans hpasses
      · cases hcrashes.symm.trans hpasses
  · cases h
    exact ⟨rfl, fun _ => rfl⟩

theorem opened_migrated (h : (file.migrated rows).opened fate = (result, file')) :
    file' = file.migrated rows := by
  have hcreated : (file.migrated rows).createDeliveries = file.migrated rows :=
    createDeliveries_of_some rfl
  rcases opened_cases h with ⟨-, rfl | rfl, -⟩ | ⟨-, c, hrun, rfl⟩
  · rfl
  · exact hcreated
  · rw [hcreated] at hrun
    rw [(migrate_skips rfl hrun).1]

/-- Stranded rows stay where they are, and an open that nothing disturbs does not see them. -/
theorem opened_stranded (hstranded : file.Stranded rows) (h : file.opened fate = (result, file')) :
    file'.Stranded rows ∧ (result = .ok () → file'.deliveries = some ⟨false, []⟩) ∧
      ((∀ label, fate label = .passes) → result = .ok ()) := by
  have hcreated : file.createDeliveries.deliveries = some ⟨false, []⟩ ∧
      file.createDeliveries.Stranded rows := by
    obtain ⟨hnone | hempty, hlegacy⟩ := hstranded
    · simp [CoreFile.createDeliveries, CoreFile.Stranded, hnone, hlegacy]
    · simp [CoreFile.createDeliveries, CoreFile.Stranded, hempty, hlegacy]
  have hnull : file.createDeliveries.bindingNotNull = false := by
    simp [CoreFile.bindingNotNull, hcreated.1]
  rcases opened_cases h with ⟨⟨halt, rfl⟩, hfile, hhalts⟩ | ⟨-, c, hrun, rfl⟩
  · refine ⟨?_, nofun, fun hpasses => absurd (fun label _ => hpasses label) hhalts⟩
    rcases hfile with rfl | rfl
    · exact hstranded
    · exact hcreated.2
  · obtain ⟨rfl, hok⟩ := migrate_skips hnull hrun
    exact ⟨hcreated.2, fun _ => hcreated.1, fun hpasses => hok (hpasses _)⟩

/-- An open of the prior file leaves it, strands its rows, or migrates it. -/
theorem opened_prior (h : (file.prior rows).opened fate = (result, file')) :
    ((∃ halt, result = .error halt) ∧ file' = file.prior rows ∧ ¬ (file.prior rows).Strands fate) ∨
      ((∃ halt, result = .error halt) ∧ file'.Stranded rows ∧ (file.prior rows).Strands fate) ∨
      file' = file.migrated rows ∧ ¬ (file.prior rows).Strands fate := by
  have hcreated : (file.prior rows).createDeliveries = file.prior rows :=
    createDeliveries_of_some rfl
  rcases opened_cases h with ⟨hhalt, hfile, hhalts⟩ | ⟨hprepared, c, hrun, rfl⟩
  · rw [hcreated, or_self] at hfile
    refine Or.inl ⟨hhalt, hfile, fun hstrands => hhalts ?_⟩
    intro label hlabel
    exact hstrands.1 label (List.mem_append_left _ hlabel)
  rw [hcreated] at hrun
  rcases migrate_prior_cases hrun with ⟨hhalt, hc, label, hlabel, hstops⟩ | ⟨hpasses, hrun⟩
  · refine Or.inl ⟨hhalt, hc, fun hstrands => hstops ?_⟩
    exact hstrands.1 label (List.mem_append_right _ hlabel)
  have hreached : ∀ label ∈ preparation ++ approach, fate label = .passes := by
    intro label hlabel
    exact (List.mem_append.mp hlabel).elim (hprepared label) (hpasses label)
  have hcommitted : ((andFinally rebuildBlock restorePragmas).exec fate
      ⟨file.prior rows, file.prior rows, false⟩).2.committed =
      (rebuildBlock.exec fate ⟨file.prior rows, file.prior rows, false⟩).2.committed :=
    andFinally_committed settles_rebuildBlock (Or.inr rfl) inert_restorePragmas
  rw [hrun] at hcommitted
  have hhalted : (∃ halt, (rebuildBlock.exec fate
      ⟨file.prior rows, file.prior rows, false⟩).1 = .error halt) →
      ∃ halt, result = .error halt := by
    rintro ⟨halt, hhalt⟩
    obtain ⟨halt', hhalt'⟩ := andFinally_halted restorePragmas hhalt
    exact ⟨halt', (congrArg Prod.fst hrun).symm.trans hhalt'⟩
  rw [hcommitted]
  cases hlegacy : file.deliveriesLegacyNotNull with
  | some table =>
    obtain ⟨hhalt, hkept⟩ := rebuildBlock_refused rows fate hlegacy
    refine Or.inl ⟨hhalted hhalt, hkept, ?_⟩
    rintro ⟨-, hnone, -⟩
    cases hnone.symm.trans hlegacy
  | none =>
    have hstrands : (file.prior rows).Strands fate ↔ file.CutShort rows fate := by
      constructor
      · rintro ⟨-, -, rows', hrows, hcut⟩
        cases hrows
        exact hcut
      · intro hcut
        exact ⟨hreached, hlegacy, rows, rfl, hcut⟩
    rw [hstrands]
    rcases rebuildBlock_exec rows fate hlegacy with ⟨hhalt, hkept, hcut⟩ |
      ⟨hhalt, hstranded, hcut⟩ | ⟨hmigrated, hcut⟩
    · exact Or.inl ⟨hhalted hhalt, hkept, hcut⟩
    · exact Or.inr (Or.inl ⟨hhalted hhalt, hstranded, hcut⟩)
    · exact Or.inr (Or.inr ⟨hmigrated, hcut⟩)

end Opens

section Runs

variable {file : CoreFile} {rows : List StoredDelivery}
  {opens before after : List (OpenStatement → Fate PyError)} {fate : OpenStatement → Fate PyError}

theorem fileAfter_concat : fileAfter file (opens ++ [fate]) =
    ((fileAfter file opens).opened fate).2 := by
  simp [fileAfter]

/-- No open of the sequence strands the rows. -/
def NeverStrands (file : CoreFile) (opens : List (OpenStatement → Fate PyError)) : Prop :=
  ∀ before fate after, opens = before ++ fate :: after → ¬ (fileAfter file before).Strands fate

theorem neverStrands_concat (h : NeverStrands file opens)
    (hlast : ¬ (fileAfter file opens).Strands fate) : NeverStrands file (opens ++ [fate]) := by
  intro before fate' after heq
  rcases List.eq_nil_or_concat after with rfl | ⟨rest, last, rfl⟩
  · obtain ⟨rfl, hsame⟩ := List.append_inj' heq rfl
    cases hsame
    exact hlast
  · rw [List.concat_eq_append, ← List.cons_append, ← List.append_assoc] at heq
    exact h before fate' rest (List.append_inj' heq rfl).1

theorem neverStrands_of_append (h : NeverStrands file (before ++ after)) :
    NeverStrands file before := by
  rintro first fate rest rfl
  exact h first fate (rest ++ after) (by simp)

/-- The file is as it was or migrated, or an open has stranded its rows. -/
theorem form_after (file : CoreFile) (rows : List StoredDelivery)
    (opens : List (OpenStatement → Fate PyError)) :
    (NeverStrands (file.prior rows) opens ∧
      (fileAfter (file.prior rows) opens = file.prior rows ∨
        fileAfter (file.prior rows) opens = file.migrated rows)) ∨
      (fileAfter (file.prior rows) opens).Stranded rows ∧
        ¬ NeverStrands (file.prior rows) opens := by
  induction opens using List.reverseRecOn with
  | nil => exact Or.inl ⟨by simp [NeverStrands], Or.inl rfl⟩
  | append_singleton opens fate ih =>
    rw [fileAfter_concat]
    rcases ih with ⟨hnever, hprior | hmigrated⟩ | ⟨hstranded, hstrands⟩
    · have hsame : (fileAfter (file.prior rows) opens).Strands fate ↔
          (file.prior rows).Strands fate := by rw [hprior]
      rw [hprior]
      cases hopened : (file.prior rows).opened fate with
      | mk result file' =>
        rcases opened_prior hopened with ⟨-, hkept, hstrands⟩ | ⟨-, hstranded, hstrands⟩ |
          ⟨hmigrated, hstrands⟩
        · exact Or.inl ⟨neverStrands_concat hnever (hsame.not.mpr hstrands), Or.inl hkept⟩
        · exact Or.inr ⟨hstranded, fun hnone => hnone opens fate [] rfl (hsame.mpr hstrands)⟩
        · exact Or.inl ⟨neverStrands_concat hnever (hsame.not.mpr hstrands), Or.inr hmigrated⟩
    · have hstays : ((file.migrated rows).opened fate).2 = file.migrated rows := opened_migrated rfl
      rw [hmigrated, hstays]
      refine Or.inl ⟨neverStrands_concat hnever ?_, Or.inr rfl⟩
      rw [hmigrated]
      rintro ⟨-, -, rows', hrows, -⟩
      cases hrows
    · exact Or.inr ⟨(opened_stranded hstranded rfl).1,
        fun hnone => hstrands (neverStrands_of_append hnone)⟩

/-- An open that nothing disturbs. -/
def undisturbed : OpenStatement → Fate PyError := fun _ => .passes

/-- Every open that succeeds, and an undisturbed one after them, shows the rows with a nullable
binding. -/
def Lossless (file : CoreFile) (rows : List StoredDelivery)
    (opens : List (OpenStatement → Fate PyError)) : Prop :=
  ∀ before fate after, opens ++ [undisturbed] = before ++ fate :: after →
    ∀ file', (fileAfter file before).opened fate = (.ok (), file') →
      file'.deliveries = some ⟨false, rows⟩

/-- The migration loses no row exactly when there is none, or no open is stopped between the rename
and the commit. -/
theorem migration_lossless_iff (file : CoreFile) (rows : List StoredDelivery)
    (opens : List (OpenStatement → Fate PyError)) :
    Lossless (file.prior rows) rows opens ↔
      rows = [] ∨ NeverStrands (file.prior rows) opens := by
  constructor
  · intro h
    by_contra hnot
    obtain ⟨hrows, hstrands⟩ := not_or.mp hnot
    rcases form_after file rows opens with ⟨hnever, -⟩ | ⟨hstranded, -⟩
    · exact hstrands hnever
    cases hopened : (fileAfter (file.prior rows) opens).opened undisturbed with
    | mk result file' =>
      obtain ⟨-, hempty, hok⟩ := opened_stranded hstranded hopened
      obtain rfl := hok fun _ => rfl
      have hshown := (hempty rfl).symm.trans (h opens undisturbed [] rfl file' hopened)
      simp only [Option.some.injEq, DeliveriesTable.mk.injEq, true_and] at hshown
      exact hrows hshown.symm
  · intro h before fate after heq file' hopened
    rcases form_after file rows before with ⟨-, hprior | hmigrated⟩ | ⟨hstranded, hstrands⟩
    · rw [hprior] at hopened
      rcases opened_prior hopened with ⟨⟨halt, hhalt⟩, -⟩ | ⟨⟨halt, hhalt⟩, -⟩ | ⟨rfl, -⟩
      · cases hhalt
      · cases hhalt
      · rfl
    · rw [hmigrated] at hopened
      rw [opened_migrated hopened]
      rfl
    · rcases h with rfl | hnever
      · exact (opened_stranded hstranded hopened).2.1 rfl
      · refine absurd ?_ hstrands
        rcases List.eq_nil_or_concat after with rfl | ⟨rest, last, rfl⟩
        · obtain ⟨rfl, -⟩ := List.append_inj' heq rfl
          exact hnever
        · rw [List.concat_eq_append, ← List.cons_append, ← List.append_assoc] at heq
          obtain ⟨rfl, -⟩ := List.append_inj' heq rfl
          exact neverStrands_of_append hnever

end Runs

/-- One delivery, and the row of a receipt whose delivery is gone. -/
def sampleFile : CoreFile where
  deliveries := none
  deliveriesLegacyNotNull := none
  keys := []
  references := [.delivery "lost-delivery"]

def priorDelivery : StoredDelivery :=
  ⟨some "prior-delivery", some "prior-event", some "prior-attempt", some "prior-binding",
    some "yua", some "session-bound", some "queued", none⟩

/-- The violation fails the first open, and the second one shows no delivery. -/
theorem migration_hides_rows :
    ¬ Lossless (sampleFile.prior [priorDelivery]) [priorDelivery] [undisturbed] := by
  intro h
  have hsecond := h [undisturbed] undisturbed [] rfl
    { sampleFile with
      deliveries := some ⟨false, []⟩
      deliveriesLegacyNotNull := some ⟨true, [priorDelivery]⟩ } (by decide +kernel)
  revert hsecond
  decide

end Yatagarasu
