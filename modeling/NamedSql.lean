import NamedSql.Config.Description
import NamedSql.Http.Service
import NamedSql.Main
import NamedSql.Postgres.Scripted
import NamedSql.Proofs.ReferenceBinding
import NamedSql.Proofs.ValueIndependence
import NamedSql.Shutdown
import NamedSql.Sqlite.Notes
import NamedSql.Store.Scripted
import NamedSql.Proofs.AppendedText
import NamedSql.Proofs.AppendedClauses
import NamedSql.Proofs.BoundValues
import NamedSql.Proofs.CountAndPage
import NamedSql.Proofs.CoercedExpansion
import NamedSql.Proofs.NameScan
import NamedSql.Proofs.FilterSeams
import NamedSql.Proofs.RequestIndependence
import NamedSql.Proofs.ErrorSecrecy
import NamedSql.Proofs.RequestFields
import NamedSql.Proofs.StatementParameters
import NamedSql.Proofs.PageWindow
import NamedSql.Proofs.RegistryInvariant
import NamedSql.Proofs.StatementCutting
import NamedSql.Proofs.PlaceholderExpansion
import NamedSql.Proofs.SettledExpansion
import NamedSql.Proofs.ParameterMerging
import NamedSql.Proofs.ReferenceRewriting
import NamedSql.Proofs.MarkerSegments
import NamedSql.Proofs.FilterCompilation
import NamedSql.Proofs.PasswordRedaction
import NamedSql.Proofs.ConfigurationLayers
import NamedSql.Proofs.IntegerBinding
import NamedSql.Proofs.WindowForms
import NamedSql.Proofs.OrderedRecords
import NamedSql.Proofs.SpanLexing
import NamedSql.Proofs.ByteOffsets
import NamedSql.Proofs.ExactNumbers
import NamedSql.Proofs.FractionReading
