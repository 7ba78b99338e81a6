import Calculator.Log.Startup
import Calculator.Sample.Campaign
import Calculator.Window.Run
import Calculator.Proofs.Language
import Calculator.Proofs.SinglePass
import Calculator.Proofs.Token.RoundTrip
import Calculator.Proofs.Chain.InPlace
import Calculator.Proofs.Token.Scans
import Calculator.Proofs.Double.ResultText
import Calculator.Proofs.Evaluation.Basic
import Calculator.Proofs.Evaluation.Reentry
import Calculator.Proofs.Token.Preview
import Calculator.Proofs.Window.Actions
import Calculator.Proofs.Window.Shown
import Calculator.Proofs.Window.Enter
import Calculator.Proofs.Decimal.Numeral
import Calculator.Proofs.Window.Painted
import Calculator.Proofs.Evaluation.Finite
import Calculator.Proofs.Chain.FirstFault
import Calculator.Proofs.Token.Joined
import Calculator.Proofs.Message
import Calculator.Proofs.Window.Keyed
import Calculator.Proofs.Chain.Joined
import Calculator.Proofs.Chain.Substitution
import Calculator.Proofs.Evaluation.ZeroDivision
import Calculator.Proofs.Decimal.Integral
import Calculator.Proofs.Double.Exact
import Calculator.Proofs.Double.ReadBack
import Calculator.Proofs.Evaluation.Integer
import Calculator.Proofs.Chain.Height
import Calculator.Proofs.Evaluation.Short
import Calculator.Proofs.Sample.Always
import Calculator.Proofs.Sample.Expression
import Calculator.Proofs.Token.Count
import Calculator.Proofs.Chain.Pass
import Calculator.Proofs.Sample.Period
import Calculator.Proofs.Evaluation.Events
import Calculator.Proofs.Log.Startup
