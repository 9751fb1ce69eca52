import PubList.Command.Disk
import PubList.Main
import PubList.Proofs.BuiltinTemplate
import PubList.Proofs.Chronology
import PubList.Proofs.FieldValue
import PubList.Proofs.GroupKey.Data
import PubList.Proofs.TwoSteps
import PubList.Proofs.LeftmostShortest
import PubList.Proofs.SameField
import PubList.Proofs.EntryList
import PubList.Proofs.DiskWrite
import PubList.Proofs.RunEffect
import PubList.Proofs.Seams
import PubList.Proofs.EntryKey
import PubList.Proofs.BlockCheck
import PubList.Proofs.ErrorOffset
import PubList.Proofs.NewestFirst
import PubList.Proofs.YearKey
import PubList.Proofs.OptionItems
import PubList.Proofs.SettingForms
import PubList.Proofs.AuthorName
import PubList.Proofs.NumericComparison
import PubList.Proofs.Untouched
import PubList.Proofs.KeyOrder
import PubList.Proofs.KeptPatterns
