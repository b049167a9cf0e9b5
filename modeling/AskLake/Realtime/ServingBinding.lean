/-
# `AskLake.Realtime.ServingBinding` — the catalog and the freshness row agree

Which table serves a dataset is written down twice: in the freshness row, as an
engine, a version and an epoch, and in the catalog payload, as the active one
among the physical bindings.  A publication renews the serving binding and keeps
the epoch; a switch installs a binding of either role and takes the next epoch.

    publication   retires "serving"                appends a serving binding
    switch        retires "serving" and its role   appends a binding of its role

So a switch to the archive leaves no serving binding active, and a switch back
leaves the archive binding active beside the serving one; both are covered by
`rebind`, whose lemmas carry `Agreeing` through every run.
-/
import AskLake.Realtime.Transactions

namespace AskLake.Realtime

open AskLake.Lib AskLake.Python AskLake.Events AskLake.Dashboard

/-- The switches of a dataset that a log applied. -/
def appliedSwitches (datasetId : String) (log : List (Request × Receipt)) :
    List (BindingSwitchRequest × BindingSwitchResult) :=
  (newSwitches log).filter fun entry => entry.1.datasetId = datasetId

theorem appliedSwitches_append (datasetId : String) (log : List (Request × Receipt))
    (entry : Request × Receipt) : appliedSwitches datasetId (log ++ [entry]) =
      appliedSwitches datasetId log ++
        (newSwitch entry).toList.filter fun entry => entry.1.datasetId = datasetId := by
  unfold appliedSwitches
  rw [newSwitches_append, List.filter_append]

/-- The rows of a dataset after a run: one active binding per role, the one the
freshness row names among them, and an epoch that counts the switches. -/
structure Agreeing (datasetId : String) (epoch : Nat) (db : Db) (log : List (Request × Receipt))
    (row : Freshness) (model : CatalogDataset) : Prop where
  freshness : db.freshness datasetId = some row
  catalog : db.catalog datasetId = some model
  unique : ActiveUnique model.bindings
  agrees : AgreesWith row model.bindings
  counted : row.bindingEpoch = epoch + (appliedSwitches datasetId log).length

/-! ## The rows a transaction writes -/

theorem activeRole_name (engine : ServingEngine) :
    (if engine.name = "trino" then "archive" else "serving") = engine.role := by
  cases engine <;> rfl

theorem targetBinding_fields (target : PhysicalBindingTarget) (epoch : Nat) :
    (targetBinding target epoch).role = some target.engine.role ∧
      (targetBinding target epoch).engine = some target.engine.name ∧
      (targetBinding target epoch).status = some "active" ∧
      (targetBinding target epoch).versionId = some target.versionId ∧
      (targetBinding target epoch).bindingEpoch = some epoch := by
  unfold targetBinding
  cases target.engine <;> exact ⟨rfl, rfl, rfl, rfl, rfl⟩

theorem switchCatalog_bindings (model : CatalogDataset) (request : BindingSwitchRequest)
    (epoch : Nat) : (switchCatalog model request epoch).bindings =
      (rebind ["serving", request.target.engine.role] (targetBinding request.target epoch)
        model.bindings).map some := by
  refine bindings_of_written rfl ?_
  split <;> rfl

theorem publicationCatalog_bindings (model : CatalogDataset) (p : RealtimePublication) :
    (publicationCatalog model p).bindings =
      (rebind ["serving"] (publicationBinding p) model.bindings).map some :=
  bindings_of_written rfl rfl

/-- The bindings after a publication agree with a row that names ClickHouse, the
published version and its epoch. -/
theorem publication_agrees {model : CatalogDataset} {p : RealtimePublication} {row : Freshness}
    (hengine : row.activeServingEngine = some "clickhouse")
    (hversion : row.activeServingVersionId = some p.servingVersionId)
    (hepoch : row.bindingEpoch = p.bindingEpoch) :
    AgreesWith row (publicationCatalog model p).bindings := by
  rw [publicationCatalog_bindings, AgreesWith, hengine, hversion, hepoch]
  exact ⟨publicationBinding p, activeBinding_rebind (by decide) rfl, rfl, rfl⟩

/-- The bindings after a switch agree with the row the switch writes. -/
theorem switch_agrees {model : CatalogDataset} {request : BindingSwitchRequest} {row : Freshness}
    {rt : Runtime} {epoch : Nat} :
    AgreesWith (switchFreshness rt row request epoch) (switchCatalog model request epoch).bindings := by
  obtain ⟨hrole, hengine, hstatus, hversion, hepoch⟩ := targetBinding_fields request.target epoch
  have hactive : activeBinding ((rebind ["serving", request.target.engine.role]
      (targetBinding request.target epoch) model.bindings).map some) request.target.engine.name =
        some (targetBinding request.target epoch) := by
    apply activeBinding_rebind
    · rw [activeRole_name]
      exact List.mem_cons_of_mem _ List.mem_cons_self
    · rw [activeRole_name]
      simp [PhysicalBinding.serves, hrole, hengine, hstatus]
  rw [switchCatalog_bindings]
  exact ⟨targetBinding request.target epoch, hactive, hversion, hepoch⟩

/-! ## One transaction -/

section
variable {env : Deployment} {db db' : Db} {datasetId : String} {epoch : Nat}
  {log : List (Request × Receipt)} {row : Freshness} {model : CatalogDataset}

/-- A transaction that leaves the two rows alone and is no applied switch. -/
theorem Agreeing.kept {entry : Request × Receipt} (h : Agreeing datasetId epoch db log row model)
    (hfreshness : db'.freshness datasetId = db.freshness datasetId)
    (hcatalog : db'.catalog datasetId = db.catalog datasetId)
    (hentry : ∀ applied ∈ newSwitch entry, applied.1.datasetId ≠ datasetId) :
    Agreeing datasetId epoch db' (log ++ [entry]) row model where
  freshness := hfreshness.trans h.freshness
  catalog := hcatalog.trans h.catalog
  unique := h.unique
  agrees := h.agrees
  counted := by
    have hnone : ((newSwitch entry).toList.filter fun entry => entry.1.datasetId = datasetId) = [] := by
      simpa [List.filter_eq_nil_iff] using hentry
    rw [h.counted, appliedSwitches_append, hnone, List.append_nil]

theorem Agreeing.published {p : RealtimePublication} {freshness : Freshness}
    {result : PublicationResult} (h : Agreeing datasetId epoch db log row model)
    (hnew : Published env db p freshness db' result) :
    ∃ row' model', Agreeing datasetId epoch db'
      (log ++ [(Request.publish p, Receipt.published result)]) row' model' := by
  obtain ⟨before, hbefore, hcatalog⟩ := bind_eq_ok.mp hnew.catalog
  have hput : db'.catalog = db.catalog.put p.datasetId (publicationCatalog before p) :=
    (pure_eq_ok.mp hcatalog).symm
  by_cases hid : datasetId = p.datasetId
  · subst hid
    cases Option.some.inj (h.freshness.symm.trans hnew.locked)
    cases Option.some.inj (h.catalog.symm.trans (orReject_eq_ok.mp hbefore))
    obtain ⟨hepoch, hengine, hversion⟩ := hnew.fenced
    refine ⟨publicationFreshness row p, publicationCatalog model p, ?_, ?_, ?_, ?_, ?_⟩
    · rw [hnew.freshness_eq, Table.put_self]
    · rw [hput, Table.put_self]
    · rw [publicationCatalog_bindings]
      exact activeUnique_rebind h.unique ⟨"serving", List.mem_cons_self, rfl⟩
    · exact publication_agrees hengine hversion hepoch
    · rw [appliedSwitches_append, List.length_append]
      exact h.counted
  · refine ⟨row, model, h.kept ?_ ?_ fun _ h => nomatch h⟩
    · rw [hnew.freshness_eq, Table.put_ne _ hid]
    · rw [hput, Table.put_ne _ hid]

theorem Agreeing.switched {request : BindingSwitchRequest} {freshness : Freshness}
    {result : BindingSwitchResult} (h : Agreeing datasetId epoch db log row model)
    (hnew : Switched env db request freshness db' result) :
    ∃ row' model', Agreeing datasetId epoch db'
      (log ++ [(Request.switch request, Receipt.switched result)]) row' model' := by
  obtain ⟨before, hbefore, -, hput⟩ := hnew.catalog
  by_cases hid : datasetId = request.datasetId
  · subst hid
    cases Option.some.inj (h.freshness.symm.trans hnew.locked)
    cases Option.some.inj (h.catalog.symm.trans hbefore)
    refine ⟨_, _, by rw [hnew.freshness_eq, Table.put_self], by rw [hput, Table.put_self], ?_,
      switch_agrees, ?_⟩
    · rw [switchCatalog_bindings]
      refine activeUnique_rebind h.unique
        ⟨request.target.engine.role, List.mem_cons_of_mem _ List.mem_cons_self, ?_⟩
      exact (targetBinding_fields request.target _).1
    · have hone : ((newSwitch (.switch request, .switched result)).toList.filter fun entry =>
          entry.1.datasetId = request.datasetId) = [(request, result)] := by
        simp [newSwitch, hnew.created]
      rw [appliedSwitches_append, List.length_append, hone, ← Nat.add_assoc, ← h.counted,
        hnew.approved.1]
      rfl
  · refine ⟨row, model, h.kept ?_ ?_ ?_⟩
    · rw [hnew.freshness_eq, Table.put_ne _ hid]
    · rw [hput, Table.put_ne _ hid]
    · simp [newSwitch, hnew.created, Ne.symm hid]

/-- A recorded revision counts on in the freshness row, and nothing else there. -/
theorem Agreeing.recorded {request : CommitRequest} {ranges : Kafka.KafkaRanges}
    {commit : RevisionCommit} (h : Agreeing datasetId epoch db log row model)
    (hnew : Recorded env db request ranges db' commit) :
    ∃ row', Agreeing datasetId epoch db'
      (log ++ [(Request.record request, Receipt.recorded commit true)]) row' model := by
  by_cases hid : datasetId = request.datasetId
  · subst hid
    have hlocked : lockedFreshness db request = row := by
      rw [lockedFreshness, h.freshness, Option.getD_some]
    refine ⟨recordedFreshness row request, ?_, ?_, h.unique, h.agrees, ?_⟩
    · rw [hnew.freshness_eq.1, hlocked]
    · rw [hnew.elsewhere.1, h.catalog]
    · rw [appliedSwitches_append, List.length_append]
      exact h.counted
  · exact ⟨row, h.kept (hnew.freshness_eq.2 _ hid) (by rw [hnew.elsewhere.1])
      fun _ h => by cases h⟩

end

theorem agreeing_keeps (env : Deployment) (datasetId : String) (epoch : Nat) :
    Keeps (store env) fun db log => ∃ row model, Agreeing datasetId epoch db log row model where
  exec := by
    rintro snapshot db db' request receipt log ⟨row, model, h⟩ hexec
    have hout := exec_outcome hexec
    cases hout with
    | publishedBefore _ => exact ⟨row, model, h.kept rfl rfl fun _ h => nomatch h⟩
    | published hnew => exact h.published hnew
    | switchedBefore hold => exact ⟨row, model, h.kept rfl rfl (by simp [newSwitch, hold])⟩
    | switched hnew => exact h.switched hnew
    | recordedBefore => exact ⟨row, model, h.kept rfl rfl fun _ h => nomatch h⟩
    | patched _ => exact ⟨row, model, h.kept rfl rfl fun _ h => nomatch h⟩
    | @duplicate request commit =>
        refine ⟨row, model, h.kept ?_ ?_ fun _ h => nomatch h⟩
        · -- the dataset's freshness row is there, so that no row is inserted for it
          obtain ⟨freshness, heq, hself, hother⟩ : ∃ freshness, _ := ensureFreshness_eq db request
          rw [heq]
          by_cases hid : datasetId = request.datasetId
          · subst hid
            show freshness request.datasetId = _
            rw [hself, lockedFreshness, h.freshness, Option.getD_some]
          · exact hother datasetId hid
        · obtain ⟨freshness, heq, -⟩ : ∃ freshness, _ := ensureFreshness_eq db request
          rw [heq]
    | recorded hnew =>
        obtain ⟨row', h'⟩ := h.recorded hnew
        exact ⟨row', model, h'⟩
  env := by
    rintro db db' log ⟨row, model, h⟩ henv
    exact ⟨row, model, by rw [henv.freshness, h.freshness], by rw [henv.catalog, h.catalog],
      h.unique, h.agrees, h.counted⟩

/-- A publication that was built for another epoch than the row's writes nothing. -/
theorem publish_fenced {env : Deployment} {snapshot db db' : Db} {p : RealtimePublication}
    {row : Freshness} {result : PublicationResult} (hrow : db.freshness p.datasetId = some row)
    (hepoch : p.bindingEpoch ≠ row.bindingEpoch)
    (h : publish env snapshot db p = .ok (db', result)) : result.created = false ∧ db' = db := by
  rcases publish_cases h with hold | ⟨freshness, hnew⟩
  · exact hold
  · cases Option.some.inj (hrow.symm.trans hnew.locked)
    exact absurd hnew.fenced.1.symm hepoch

/-- The catalog and the freshness row agree after every run that starts so.

No role has two active bindings; the binding that is found for the row's engine
is the one the row names, by version and epoch; the epoch has grown by one for
each applied switch and by nothing else; and a publication that was built for an
earlier epoch creates nothing, whatever it saw before it took the lock. -/
theorem serving_binding_agrees (env : Deployment) (db₀ : Db) {datasetId : String}
    {row₀ : Freshness} {model₀ : CatalogDataset} (hrow : db₀.freshness datasetId = some row₀)
    (hmodel : db₀.catalog datasetId = some model₀) (hunique : ActiveUnique model₀.bindings)
    (hagrees : AgreesWith row₀ model₀.bindings) {c : Config Db Request Receipt}
    (h : Steps (store env) (Config.start db₀) c) :
    ∃ row model, c.db.freshness datasetId = some row ∧ c.db.catalog datasetId = some model ∧
      ActiveUnique model.bindings ∧ AgreesWith row model.bindings ∧
      row.bindingEpoch = row₀.bindingEpoch + (appliedSwitches datasetId c.log).length ∧
      ∀ snapshot p db' result, p.datasetId = datasetId → p.bindingEpoch < row.bindingEpoch →
        publish env snapshot c.db p = .ok (db', result) → result.created = false ∧ db' = c.db := by
  obtain ⟨row, model, hc⟩ := Steps.induct (agreeing_keeps env datasetId row₀.bindingEpoch)
    ⟨row₀, model₀, hrow, hmodel, hunique, hagrees, rfl⟩ h
  refine ⟨row, model, hc.freshness, hc.catalog, hc.unique, hc.agrees, hc.counted, ?_⟩
  rintro snapshot p db' result rfl hlt hpublish
  exact publish_fenced hc.freshness hlt.ne hpublish

/-- A publication and no switch: the epoch is still 0, and the bindings agree. -/
theorem serving_binding_agrees_orders :
    ∃ row model, (served (store ordersEnv) ordersDb [.publish ordersPublication]).db.freshness
        "orders" = some row ∧
      (served (store ordersEnv) ordersDb [.publish ordersPublication]).db.catalog "orders"
        = some model ∧
      ActiveUnique model.bindings ∧ AgreesWith row model.bindings ∧ row.bindingEpoch = 0 := by
  have hlog : (appliedSwitches "orders"
      (served (store ordersEnv) ordersDb [.publish ordersPublication]).log).length = 0 := by
    decide +kernel
  have hunique : ActiveUnique [some ordersBinding] :=
    fun role => (List.length_filter_le _ _).trans (by simp)
  obtain ⟨row, model, hrow, hmodel, hactive, hagrees, hepoch, -⟩ :=
    @serving_binding_agrees ordersEnv ordersDb "orders" _ _ rfl rfl hunique
      ⟨ordersBinding, rfl, rfl, rfl⟩ _ (served_steps (store ordersEnv) ordersDb
        [.publish ordersPublication])
  rw [hlog] at hepoch
  exact ⟨row, model, hrow, hmodel, hactive, hagrees, hepoch⟩

end AskLake.Realtime
