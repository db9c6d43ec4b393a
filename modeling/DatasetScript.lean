import DatasetScript.Main
import DatasetScript.CommandLine.Session
import DatasetScript.Proofs.Grouping
import DatasetScript.Proofs.Guards
import DatasetScript.Proofs.ScriptSoundness
import DatasetScript.Proofs.Statements
import DatasetScript.Proofs.SyntaxInterchange
import DatasetScript.Proofs.BindingsInterchange
import DatasetScript.Proofs.Positions
import DatasetScript.Proofs.Parentheses
import DatasetScript.Proofs.IntegerSums
import DatasetScript.Proofs.GroupCounts
import DatasetScript.Proofs.Renaming
import DatasetScript.Proofs.JoinPlanning
import DatasetScript.Proofs.CrossJoins
import DatasetScript.Proofs.Calculating
import DatasetScript.Proofs.Unions
import DatasetScript.Proofs.ColumnOrder
import DatasetScript.Proofs.Filtering
import DatasetScript.Proofs.EditDistances
import DatasetScript.Proofs.TextPositions
import DatasetScript.Proofs.IntegerExpressions
import DatasetScript.Proofs.PatternElements
import DatasetScript.Proofs.PatternBrackets
import DatasetScript.Proofs.PatternMeaning
import DatasetScript.Proofs.PatternPrograms
import DatasetScript.Proofs.PatternReading
import DatasetScript.Proofs.PatternSearch
import DatasetScript.Proofs.Matchers
import DatasetScript.Proofs.WholeMatches
import DatasetScript.Proofs.Extremes
import DatasetScript.Proofs.ThreeValuedLogic
import DatasetScript.Proofs.Membership
import DatasetScript.Proofs.Aliases
import DatasetScript.Proofs.ColumnPlaces
import DatasetScript.Proofs.RowsByName
