import DataQuality.Unicode.CodeSet

/-!
# Tables of case mapping and case folding

The one-character lower-case mapping as runs: `count` code points, `step` apart from `first`,
each mapped to itself plus `shift`.  The runs are written out, so that proofs can evaluate them.
The classes of simple case folding (the sets of characters that fold to the same character, when
there are at least two) are written as a size followed by the members, each as its distance
from the one before (the first from zero).  The data is that of Unicode 16.0.
-/

namespace DataQuality.Unicode.Tables

/-- Runs of the single-character lower-case mapping, in ascending order of code point. -/
def lowercaseMapping : Array ShiftRun := #[
  ⟨65, 26, 1, 32⟩, ⟨192, 23, 1, 32⟩, ⟨216, 7, 1, 32⟩, ⟨256, 24, 2, 1⟩, ⟨306, 3, 2, 1⟩,
  ⟨313, 8, 2, 1⟩, ⟨330, 23, 2, 1⟩, ⟨376, 1, 1, -121⟩, ⟨377, 3, 2, 1⟩, ⟨385, 1, 1, 210⟩,
  ⟨386, 2, 2, 1⟩, ⟨390, 1, 1, 206⟩, ⟨391, 1, 1, 1⟩, ⟨393, 2, 1, 205⟩, ⟨395, 1, 1, 1⟩,
  ⟨398, 1, 1, 79⟩, ⟨399, 1, 1, 202⟩, ⟨400, 1, 1, 203⟩, ⟨401, 1, 1, 1⟩, ⟨403, 1, 1, 205⟩,
  ⟨404, 1, 1, 207⟩, ⟨406, 1, 1, 211⟩, ⟨407, 1, 1, 209⟩, ⟨408, 1, 1, 1⟩, ⟨412, 1, 1, 211⟩,
  ⟨413, 1, 1, 213⟩, ⟨415, 1, 1, 214⟩, ⟨416, 3, 2, 1⟩, ⟨422, 1, 1, 218⟩, ⟨423, 1, 1, 1⟩,
  ⟨425, 1, 1, 218⟩, ⟨428, 1, 1, 1⟩, ⟨430, 1, 1, 218⟩, ⟨431, 1, 1, 1⟩, ⟨433, 2, 1, 217⟩,
  ⟨435, 2, 2, 1⟩, ⟨439, 1, 1, 219⟩, ⟨440, 1, 1, 1⟩, ⟨444, 1, 1, 1⟩, ⟨452, 1, 1, 2⟩, ⟨453, 1, 1, 1⟩,
  ⟨455, 1, 1, 2⟩, ⟨456, 1, 1, 1⟩, ⟨458, 1, 1, 2⟩, ⟨459, 9, 2, 1⟩, ⟨478, 9, 2, 1⟩, ⟨497, 1, 1, 2⟩,
  ⟨498, 2, 2, 1⟩, ⟨502, 1, 1, -97⟩, ⟨503, 1, 1, -56⟩, ⟨504, 20, 2, 1⟩, ⟨544, 1, 1, -130⟩,
  ⟨546, 9, 2, 1⟩, ⟨570, 1, 1, 10795⟩, ⟨571, 1, 1, 1⟩, ⟨573, 1, 1, -163⟩, ⟨574, 1, 1, 10792⟩,
  ⟨577, 1, 1, 1⟩, ⟨579, 1, 1, -195⟩, ⟨580, 1, 1, 69⟩, ⟨581, 1, 1, 71⟩, ⟨582, 5, 2, 1⟩,
  ⟨880, 2, 2, 1⟩, ⟨886, 1, 1, 1⟩, ⟨895, 1, 1, 116⟩, ⟨902, 1, 1, 38⟩, ⟨904, 3, 1, 37⟩,
  ⟨908, 1, 1, 64⟩, ⟨910, 2, 1, 63⟩, ⟨913, 17, 1, 32⟩, ⟨931, 9, 1, 32⟩, ⟨975, 1, 1, 8⟩,
  ⟨984, 12, 2, 1⟩, ⟨1012, 1, 1, -60⟩, ⟨1015, 1, 1, 1⟩, ⟨1017, 1, 1, -7⟩, ⟨1018, 1, 1, 1⟩,
  ⟨1021, 3, 1, -130⟩, ⟨1024, 16, 1, 80⟩, ⟨1040, 32, 1, 32⟩, ⟨1120, 17, 2, 1⟩, ⟨1162, 27, 2, 1⟩,
  ⟨1216, 1, 1, 15⟩, ⟨1217, 7, 2, 1⟩, ⟨1232, 48, 2, 1⟩, ⟨1329, 38, 1, 48⟩, ⟨4256, 38, 1, 7264⟩,
  ⟨4295, 1, 1, 7264⟩, ⟨4301, 1, 1, 7264⟩, ⟨5024, 80, 1, 38864⟩, ⟨5104, 6, 1, 8⟩, ⟨7305, 1, 1, 1⟩,
  ⟨7312, 43, 1, -3008⟩, ⟨7357, 3, 1, -3008⟩, ⟨7680, 75, 2, 1⟩, ⟨7838, 1, 1, -7615⟩,
  ⟨7840, 48, 2, 1⟩, ⟨7944, 8, 1, -8⟩, ⟨7960, 6, 1, -8⟩, ⟨7976, 8, 1, -8⟩, ⟨7992, 8, 1, -8⟩,
  ⟨8008, 6, 1, -8⟩, ⟨8025, 4, 2, -8⟩, ⟨8040, 8, 1, -8⟩, ⟨8072, 8, 1, -8⟩, ⟨8088, 8, 1, -8⟩,
  ⟨8104, 8, 1, -8⟩, ⟨8120, 2, 1, -8⟩, ⟨8122, 2, 1, -74⟩, ⟨8124, 1, 1, -9⟩, ⟨8136, 4, 1, -86⟩,
  ⟨8140, 1, 1, -9⟩, ⟨8152, 2, 1, -8⟩, ⟨8154, 2, 1, -100⟩, ⟨8168, 2, 1, -8⟩, ⟨8170, 2, 1, -112⟩,
  ⟨8172, 1, 1, -7⟩, ⟨8184, 2, 1, -128⟩, ⟨8186, 2, 1, -126⟩, ⟨8188, 1, 1, -9⟩, ⟨8486, 1, 1, -7517⟩,
  ⟨8490, 1, 1, -8383⟩, ⟨8491, 1, 1, -8262⟩, ⟨8498, 1, 1, 28⟩, ⟨8544, 16, 1, 16⟩, ⟨8579, 1, 1, 1⟩,
  ⟨9398, 26, 1, 26⟩, ⟨11264, 48, 1, 48⟩, ⟨11360, 1, 1, 1⟩, ⟨11362, 1, 1, -10743⟩,
  ⟨11363, 1, 1, -3814⟩, ⟨11364, 1, 1, -10727⟩, ⟨11367, 3, 2, 1⟩, ⟨11373, 1, 1, -10780⟩,
  ⟨11374, 1, 1, -10749⟩, ⟨11375, 1, 1, -10783⟩, ⟨11376, 1, 1, -10782⟩, ⟨11378, 1, 1, 1⟩,
  ⟨11381, 1, 1, 1⟩, ⟨11390, 2, 1, -10815⟩, ⟨11392, 50, 2, 1⟩, ⟨11499, 2, 2, 1⟩, ⟨11506, 1, 1, 1⟩,
  ⟨42560, 23, 2, 1⟩, ⟨42624, 14, 2, 1⟩, ⟨42786, 7, 2, 1⟩, ⟨42802, 31, 2, 1⟩, ⟨42873, 2, 2, 1⟩,
  ⟨42877, 1, 1, -35332⟩, ⟨42878, 5, 2, 1⟩, ⟨42891, 1, 1, 1⟩, ⟨42893, 1, 1, -42280⟩,
  ⟨42896, 2, 2, 1⟩, ⟨42902, 10, 2, 1⟩, ⟨42922, 1, 1, -42308⟩, ⟨42923, 1, 1, -42319⟩,
  ⟨42924, 1, 1, -42315⟩, ⟨42925, 1, 1, -42305⟩, ⟨42926, 1, 1, -42308⟩, ⟨42928, 1, 1, -42258⟩,
  ⟨42929, 1, 1, -42282⟩, ⟨42930, 1, 1, -42261⟩, ⟨42931, 1, 1, 928⟩, ⟨42932, 8, 2, 1⟩,
  ⟨42948, 1, 1, -48⟩, ⟨42949, 1, 1, -42307⟩, ⟨42950, 1, 1, -35384⟩, ⟨42951, 2, 2, 1⟩,
  ⟨42955, 1, 1, -42343⟩, ⟨42956, 1, 1, 1⟩, ⟨42960, 1, 1, 1⟩, ⟨42966, 3, 2, 1⟩,
  ⟨42972, 1, 1, -42561⟩, ⟨42997, 1, 1, 1⟩, ⟨65313, 26, 1, 32⟩, ⟨66560, 40, 1, 40⟩,
  ⟨66736, 36, 1, 40⟩, ⟨66928, 11, 1, 39⟩, ⟨66940, 15, 1, 39⟩, ⟨66956, 7, 1, 39⟩, ⟨66964, 2, 1, 39⟩,
  ⟨68736, 51, 1, 64⟩, ⟨68944, 22, 1, 32⟩, ⟨71840, 32, 1, 32⟩, ⟨93760, 32, 1, 32⟩,
  ⟨125184, 34, 1, 34⟩]

/-- The classes of simple case folding. -/
def caseFoldClasses : String := "2d1c02d2c02d3c02d4c02d5c02d6c02d7c02d8c02d9c02dBc03dCc0lh^2dDc02dFc02dGc02dHc02dJc02dKc02dLc03dMc0lD
2dNc02dPc02dQc02dRc02dSc02dTc02dVc03hP*7c02j0c02j1c02j2c02j3c02j4c03j5c0ld62j6c02j7c02j8c02j9c02jBc0
2jCc02jDc02jFc02jGc02jHc02jJc02jKc02jLc02jMc02jNc02jPc02jQc02jSc02jTc02jVc02jWc02jXc02jZc02j~c02j^kr
^2k^fT2l012l212l412l612l812lB12lD12lG12lJ12lL12lN12lQ12lS12lV12lX12l~12m012m212m412m612m812mB12mD12m
G12mL12mN12mQ12mT12mW12mZ12m^12n112n312n512n712nB12nD12nG12nJ12nL12nN12nQ12nS12nV12nX12n~12p012p212p
412p612p812pB12pD12pG12pJ12pL12pN12pQ12pT12pW12pZ12q0j32q1jL2q212q412q6jG2q712q9jF2qBjF2qC12qGdH2qHj
B2qJjC2qK12qMjF2qNjH2qPf12qQjM2qRjK2qS12qVh32qWcmx12qXjM2qZjP2q~g22q^jQ2r012r212r412r6jV2r712r9jV2rD
12rGjV2rH12rKjT2rLjT2rM12rP12rRjW2rS12rX12r^cS3s4113s7113sB112sF12sH12sK12sM12sP12sR12sT12sW12s~12t0
12t212t412t612t812tB12tD12tG13tK112tN12tS12tV12tX12t~12v012v212v412v612v812vB12vD12vG12vJ12vL12vN12v
Q12vS12vV12vX12v~12w212w412w612w812wB12wD12wG12wJ12wL12wVnwC2wW12w~nw82w^nw^2x0nw^2x112x4d52x5d72x61
2x812xB12xD12xG12xJnv^2xKnvX2xLnv~2xXcmnH2z1cmnC2z4cmp72z5cmm82z6cmn42zBcmn42zCntR2zDcmn12zKntZ2zZnt
72!2cmn32!7cmmB2!ZcmlP2!~cmlL4:5dNc0kb52;J12;L12;Q12;Wg22;Xg22;Zg22;^fN2<6c62<8c52<9c52<Bc52<Dd02<Gc
^2<Hc^2<Kc03<Lc0~2<Mc02<Nc03<Pc0d02<Qc02<Rc04<Sc0Tc33<Vc0cQ2<Wc02<Zc02<~c02<^c03=0c0Q3=1c0cJ3=3^12=4
c02=5c03=6c0H2=7c02=8c03=9c0knZ2=Bc02=Cc02>H82>S12>V12>X12>~12?012?212?412?612?812?B12?D12?G12?L72?R
12?V12cb0dJ2cb1dJ2cb2dJ2cb3dJ2cb4dJ2cb5dJ2cb6dJ2cb7dJ2cb8dJ2cb9dJ2cbBdJ2cbCdJ2cbDdJ2cbFdJ2cbGdJ2cbHd
J2cbJc02cbKc03cbLc0jdG2cbMc03cbNc0jdF2cbPc02cbQc02cbRc02cbSc02cbTc02cbVc02cbWc02cbXc02cbZc03cb~c0jd4
2cb^c02cc0c03cc1c0jd24cc2c0jd212cc3c02cc4c02cc5c02cc6c02cc7c02cc8c02cc9c03ccBc0jcX2ccCc02ccDc02ccFc0
2ccGc02ccHc02cf013cf21jc42cf412cf612cf812cfB12cfD12cfG12cfJ12cfL12cfN12cfQ12cfS12cfV12cfX12cf~12cg01
2cgB12cgD12cgG12cgJ12cgL12cgN12cgQ12cgS12cgV12cgX12cg~12ch012ch212ch412ch612ch812chB12chD12chG12chJ1
2chL12chN12chQ12chS12chV12chX12ch~12cj0H2cj112cj312cj512cj712cj912cjC12cjF12cjJ12cjL12cjN12cjQ12cjS1
2cjV12cjX12cj~12ck012ck212ck412ck612ck812ckB12ckD12ckG12ckJ12ckL12ckN12ckQ12ckS12ckV12ckX12ck~12cl01
2cl212cl412cl612cl812clB12clD12clG12clJ12clL12clN12clQ12clS12clV12clX12cl~12cm012cm212cm412cm612cm81
2cmB12cmD12cmG12cmKcJ2cmLcJ2cmMcJ2cmNcJ2cmPcJ2cmQcJ2cmRcJ2cmScJ2cmTcJ2cmVcJ2cmWcJ2cmXcJ2cmZcJ2cm~cJ2
cm^cJ2cn0cJ2cn1cJ2cn2cJ2cn3cJ2cn4cJ2cn5cJ2cn6cJ2cn7cJ2cn8cJ2cn9cJ2cnBcJ2cnCcJ2cnDcJ2cnFcJ2cnGcJ2cnHc
J2cnJcJ2cnKcJ2cnLcJ2cnMcJ2cnNcJ2cnPcJ2cnQcJ2gh0kf02gh1kf02gh2kf02gh3kf02gh4kf02gh5kf02gh6kf02gh7kf02
gh8kf02gh9kf02ghBkf02ghCkf02ghDkf02ghFkf02ghGkf02ghHkf02ghJkf02ghKkf02ghLkf02ghMkf02ghNkf02ghPkf02gh
Qkf02ghRkf02ghSkf02ghTkf02ghVkf02ghWkf02ghXkf02ghZkf02gh~kf02gh^kf02gj0kf02gj1kf02gj2kf02gj3kf02gj4k
f02gj5kf02gj7kf02gjFkf02gjJd>02gjKd>02gjLd>02gjMd>02gjNd>02gjPd>02gjQd>02gjRd>02gjSd>02gjTd>02gjVd>0
2gjWd>02gjXd>02gjZd>02gj~d>02gj^d>02gk0d>02gk1d>02gk2d>02gk3d>02gk4d>02gk5d>02gk6d>02gk7d>02gk8d>02g
k9d>02gkBd>02gkCd>02gkDd>02gkFd>02gkGd>02gkHd>02gkJd>02gkKd>02gkLd>02gkMd>02gkNd>02gkPd>02gkQd>02gkR
d>02gkSd>02gkTd>02gkVd>02gkZd>02gk~d>02gk^d>02g=0ch>J2g=1ch>J2g=2ch>J2g=3ch>J2g=4ch>J2g=5ch>J2g=6ch>
J2g=7ch>J2g=8ch>J2g=9ch>J2g=Bch>J2g=Cch>J2g=Dch>J2g=Fch>J2g=Gch>J2g=Hch>J2g=Jch>J2g=Kch>J2g=Lch>J2g=
Mch>J2g=Nch>J2g=Pch>J2g=Qch>J2g=Rch>J2g=Sch>J2g=Tch>J2g=Vch>J2g=Wch>J2g=Xch>J2g=Zch>J2g=~ch>J2g=^ch>
J2g>0ch>J2g>1ch>J2g>2ch>J2g>3ch>J2g>4ch>J2g>5ch>J2g>6ch>J2g>7ch>J2g>8ch>J2g>9ch>J2g>Bch>J2g>Cch>J2g>
Dch>J2g>Fch>J2g>Gch>J2g>Hch>J2g>Jch>J2g>Kch>J2g>Lch>J2g>Mch>J2g>Nch>J2g>Pch>J2g>Qch>J2g>Rch>J2g>Sch>
J2g>Tch>J2g>Vch>J2g>Wch>J2g>Xch>J2g>Zch>J2g>~ch>J2g>^ch>J2g?0ch>J2g?1ch>J2g?2ch>J2g?3ch>J2g?4ch>J2g?
5ch>J2g?6ch>J2g?7ch>J2g?8ch>J2g?9ch>J2g?Bch>J2g?Cch>J2g?Dch>J2g?Fch>J2g?Gch>J2g?Hch>J2g?J82g?K82g?L8
2g?M82g?N82g?P83kg8cds212kg912kpTcdv42kpZf*62kqGcdwS2kv012kv212kv412kv612kv812kvB12kvD12kvG12kvJ12kv
L12kvN12kvQ12kvS12kvV12kvX12kv~12kw012kw212kw412kw612kw812kwB12kwD12kwG12kwJ12kwL12kwN12kwQ12kwS12kw
V12kwX12kw~12kx012kx212kx412kx612kx812kxB12kxD12kxG12kxJ12kxL12kxN12kxQ12kxS12kxV12kxX12kx~13kz01cV2
kz212kz412kz612kz812kzB12kzD12kzG12kzJ12kzL12kzN12kzQ12kzS12kzV12kzX12kz~12k!012k!212k!412k!612k!812
k!B12k!D12k!G12k!J12k!L12k!N12k%012k%212k%412k%612k%812k%B12k%D12k%G12k%J12k%L12k%N12k%Q12k%S12k%V12
k%X12k%~12k&012k&212k&412k&612k&812k&B12k&D12k&G12k&J12k&L12k&N12k&Q12k&S12k&V12k&X12k&~12k*012k*212
k*412k*612k*812k*B12k*D12k*G12k*J12k*L12k*N12k*Q12k*S12k*V12k*X12k*~12k+082k+182k+282k+382k+482k+582
k+682k+782k+J82k+K82k+L82k+M82k+N82k+P82k.082k.182k.282k.382k.482k.582k.682k.782k.J82k.K82k.L82k.M82
k.N82k.P82k.Q82k.R82k:082k:182k:282k:382k:482k:582k:K82k:M82k:P82k:R82k;082k;182k;282k;382k;482k;582
k;682k;782k;JdB2k;KdB2k;LdQ2k;MdQ2k;NdQ2k;PdQ2k;Qf42k;Rf42k;Sg02k;Tg02k;VfJ2k;WfJ2k;Xf~2k;Zf~2k<082k
<182k<282k<382k<482k<582k<682k<782k<J82k<K82k<L82k<M82k<N82k<P82k<Q82k<R82k=082k=182k=282k=382k=482k
=582k=682k=782k=J82k=K82k=M92k>392k>J82k>K82k?082k?182k?572k?M92lmLX2lp0J2lp1J2lp2J2lp3J2lp4J2lp5J2l
p6J2lp7J2lp8J2lp9J2lpBJ2lpCJ2lpDJ2lpFJ2lpGJ2lpHJ2lq312mhQV2mhRV2mhSV2mhTV2mhVV2mhWV2mhXV2mhZV2mh~V2m
h^V2mj0V2mj1V2mj2V2mj3V2mj4V2mj5V2mj6V2mj7V2mj8V2mj9V2mjBV2mjCV2mjDV2mjFV2mjGV2mjHV2pb0cJ2pb1cJ2pb2c
J2pb3cJ2pb4cJ2pb5cJ2pb6cJ2pb7cJ2pb8cJ2pb9cJ2pbBcJ2pbCcJ2pbDcJ2pbFcJ2pbGcJ2pbHcJ2pbJcJ2pbKcJ2pbLcJ2pb
McJ2pbNcJ2pbPcJ2pbQcJ2pbRcJ2pbScJ2pbTcJ2pbVcJ2pbWcJ2pbXcJ2pbZcJ2pb~cJ2pb^cJ2pc0cJ2pc1cJ2pc2cJ2pc3cJ2
pc4cJ2pc5cJ2pc6cJ2pc7cJ2pc8cJ2pc9cJ2pcBcJ2pcCcJ2pcDcJ2pcFcJ2pcGcJ2pcHcJ2pf012pf712pf912pfC12pfL12pfP
12pg012pg212pg412pg612pg812pgB12pgD12pgG12pgJ12pgL12pgN12pgQ12pgS12pgV12pgX12pg~12ph012ph212ph412ph6
12ph812phB12phD12phG12phJ12phL12phN12phQ12phS12phV12phX12ph~12pj012pj212pj412pj612pj812pjB12pjD12pjG
12pjJ12pjL12pjN12pjQ12pjS12pjV12pjX12pj~12pk012pk212pkC12pkF12pkL12cmx012cmx212cmx412cmx612cmx812cmx
D12cmxG12cmxJ12cmxL12cmxN12cmxQ12cmxS12cmxV12cmxX12cmx~12cmz012cmz212cmz412cmz612cmz812cmzB12cmzD12c
m!012cm!212cm!412cm!612cm!812cm!B12cm!D12cm!G12cm!J12cm!L12cm!N12cm!Q12cm!S12cm!V12cm.212cm.412cm.61
2cm.812cm.B12cm.D12cm.G12cm.L12cm.N12cm.Q12cm.S12cm.V12cm.X12cm.~12cm:012cm:212cm:412cm:612cm:812cm:
B12cm:D12cm:G12cm:J12cm:L12cm:N12cm:Q12cm:S12cm:V12cm:X12cm:~12cm;012cm;212cm;412cm;612cm;812cm;B12c
m;D12cm;G12cm;T12cm;W12cm;~12cm<012cm<212cm<412cm<612cm<C12cm<J12cm<L12cm<NcJ2cm<Q12cm<S12cm<V12cm<X
12cm<~12cm=012cm=212cm=412cm=612cm=812cm=M=02cm=N12cm=Q12cm=S12cm=V12cm=X12cm=~12cm>012cm>212cm>712c
m>912cm>D12cm>J12cm>Q12cm>S12cm>V12cm?P12c?.1c02c?.2c02c?.3c02c?.4c02c?.5c02c?.6c02c?.7c02c?.8c02c?.
9c02c?.Bc02c?.Cc02c?.Dc02c?.Fc02c?.Gc02c?.Hc02c?.Jc02c?.Kc02c?.Lc02c?.Mc02c?.Nc02c?.Pc02c?.Qc02c?.Rc
02c?.Sc02c?.Tc02c?.Vc02dcb0c82dcb1c82dcb2c82dcb3c82dcb4c82dcb5c82dcb6c82dcb7c82dcb8c82dcb9c82dcbBc82
dcbCc82dcbDc82dcbFc82dcbGc82dcbHc82dcbJc82dcbKc82dcbLc82dcbMc82dcbNc82dcbPc82dcbQc82dcbRc82dcbSc82dc
bTc82dcbVc82dcbWc82dcbXc82dcbZc82dcb~c82dcb^c82dcc0c82dcc1c82dcc2c82dcc3c82dcc4c82dcc5c82dcc6c82dcc7
c82dchJc82dchKc82dchLc82dchMc82dchNc82dchPc82dchQc82dchRc82dchSc82dchTc82dchVc82dchWc82dchXc82dchZc8
2dch~c82dch^c82dcj0c82dcj1c82dcj2c82dcj3c82dcj4c82dcj5c82dcj6c82dcj7c82dcj8c82dcj9c82dcjBc82dcjCc82d
cjDc82dcjFc82dcjGc82dcjHc82dcjJc82dcjKc82dcjLc82dcjMc82dcpJc72dcpKc72dcpLc72dcpMc72dcpNc72dcpPc72dcp
Qc72dcpRc72dcpSc72dcpTc72dcpVc72dcpXc72dcpZc72dcp~c72dcp^c72dcq0c72dcq1c72dcq2c72dcq3c72dcq4c72dcq5c
72dcq6c72dcq7c72dcq8c72dcq9c72dcqBc72dcqDc72dcqFc72dcqGc72dcqHc72dcqJc72dcqKc72dcqLc72dcqNc72dcqPc72
dfg0d02dfg1d02dfg2d02dfg3d02dfg4d02dfg5d02dfg6d02dfg7d02dfg8d02dfg9d02dfgBd02dfgCd02dfgDd02dfgFd02df
gGd02dfgHd02dfgJd02dfgKd02dfgLd02dfgMd02dfgNd02dfgPd02dfgQd02dfgRd02dfgSd02dfgTd02dfgVd02dfgWd02dfgX
d02dfgZd02dfg~d02dfg^d02dfh0d02dfh1d02dfh2d02dfh3d02dfh4d02dfh5d02dfh6d02dfh7d02dfh8d02dfh9d02dfhBd0
2dfhCd02dfhDd02dfhFd02dfhGd02dfhHd02dfhJd02dfhKd02dfhLd02dfnJc02dfnKc02dfnLc02dfnMc02dfnNc02dfnPc02d
fnQc02dfnRc02dfnSc02dfnTc02dfnVc02dfnWc02dfnXc02dfnZc02dfn~c02dfn^c02dfp0c02dfp1c02dfp2c02dfp3c02dfp
4c02dfp5c02djh0c02djh1c02djh2c02djh3c02djh4c02djh5c02djh6c02djh7c02djh8c02djh9c02djhBc02djhCc02djhDc
02djhFc02djhGc02djhHc02djhJc02djhKc02djhLc02djhMc02djhNc02djhPc02djhQc02djhRc02djhSc02djhTc02djhVc02
djhWc02djhXc02djhZc02djh~c02djh^c02d;x0c02d;x1c02d;x2c02d;x3c02d;x4c02d;x5c02d;x6c02d;x7c02d;x8c02d;
x9c02d;xBc02d;xCc02d;xDc02d;xFc02d;xGc02d;xHc02d;xJc02d;xKc02d;xLc02d;xMc02d;xNc02d;xPc02d;xQc02d;xR
c02d;xSc02d;xTc02d;xVc02d;xWc02d;xXc02d;xZc02d;x~c02d;x^c02f:l0c22f:l1c22f:l2c22f:l3c22f:l4c22f:l5c2
2f:l6c22f:l7c22f:l8c22f:l9c22f:lBc22f:lCc22f:lDc22f:lFc22f:lGc22f:lHc22f:lJc22f:lKc22f:lLc22f:lMc22f
:lNc22f:lPc22f:lQc22f:lRc22f:lSc22f:lTc22f:lVc22f:lWc22f:lXc22f:lZc22f:l~c22f:l^c22f:m0c22f:m1c2"

end DataQuality.Unicode.Tables
