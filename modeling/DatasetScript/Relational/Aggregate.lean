import DatasetScript.Relational.Rows
/-!
# Grouping

Rows are grouped by key and each group becomes one row: aggregated columns hold the aggregation of
the group, the other columns the cells of its first row.
-/

namespace DatasetScript.Query

/-- The first column that is neither aggregated nor a column of the input. -/
def strayColumn? (input output : Structure) (aggregations : List (String × Aggregation)) :
    Option String :=
  (output.names.filter fun name => (Assoc.find? aggregations name).isNone).find?
    fun name => !input.contains name

/-- Whether the result holds a column that is not aggregated. -/
def carriesColumn (output : Structure) (aggregations : List (String × Aggregation)) : Bool :=
  output.names.any fun name => (Assoc.find? aggregations name).isNone

def groupCell (aggregations : List (String × Aggregation)) (rows : List Row) (c : Component) :
    Except Error Value := do
  let v ← match Assoc.find? aggregations c.name with
    | some a => a.collect rows
    | none => .ok ((rows.head?.bind (·.get? c.name)).getD .null)
  v.cast c.type

/-- The groups of a dataset. Where nothing but aggregations is asked for, no rows form a group. -/
def groupsOf (carries : Bool) (key : Row → List Value) (rows : List Row) : List (List Row) :=
  match groupByKey key rows with
  | [] => if carries then [] else [[]]
  | groups => groups.map (·.2)

/-- Groups rows by key and collects the aggregations of each group into a row of the output. -/
def aggregate (input : Query) (output : Structure) (aggregations : List (String × Aggregation))
    (key : Row → List Value) : Except Error Query :=
  match strayColumn? input.layout output aggregations with
  | some name => .error (.unknownColumn name)
  | none =>
    match (Assoc.names aggregations).find? fun name => !output.contains name with
    | some name => .error (.structureMismatch (.aggregateWithoutColumn name))
    | none => .ok ⟨output, fun env => do
        let d ← input.run env
        let groups := groupsOf (carriesColumn output aggregations) key d.rows
        let rows ← groups.mapM fun rows => output.components.mapM (groupCell aggregations rows)
        layRows output rows⟩

end DatasetScript.Query
